import CopterOS.PidCtrl.Preemption

open transition stores number copter.controller copter.linux_client copter.stabilizer

namespace copter.pidctrl

/-- Two steps of one schedule: the messages differ in their gains at most. -/
inductive Step.Alike : Step → Step → Prop
  | message {data other : Data} (htype : data 0 = other 0) (hmode : data 1 = other 1) :
      Step.Alike (.message data) (.message other)
  | lcTask : Step.Alike .lcTask .lcTask
  | stabilizerTask (sensors : Sensors) : Step.Alike (.stabilizerTask sensors) (.stabilizerTask sensors)

/-- Where an access goes. -/
def Access.location : Access → Option Location
  | .assign location _ => some location
  | .commanderSetRPYType _ => none

/-- Two machines at the same point of their handlers and of the attitude
    correction. -/
def Machine.Alike (left right : Machine) : Prop :=
  left.pending.map Access.location = right.pending.map Access.location ∧
    left.state.stabilizer.attitudeCounter = right.state.stabilizer.attitudeCounter

theorem map_location_accesses {values other : PidValues} (htype : values.type = other.type) :
    (accesses values).map Access.location = (accesses other).map Access.location := by
  unfold accesses assignments
  rw [htype]
  split <;> rfl

theorem Access.perform_stabilizer (access : Access) (state : Copter) :
    (access.perform state).stabilizer = state.stabilizer := by
  cases access <;> rfl

theorem attitudeCounter_stabilizerTask (config : Config) (sensors : Sensors) (state : Copter) :
    (stabilizerTask config sensors state).2.stabilizer.attitudeCounter =
      if sensors.imu6IsCalibrated then
        if state.stabilizer.attitudeCounter + 1 ≥ ATTITUDE_UPDATE_RATE_DIVIDER then 0
        else state.stabilizer.attitudeCounter + 1
      else state.stabilizer.attitudeCounter := by
  by_cases hcalibrated : sensors.imu6IsCalibrated = true
  · rw [stabilizerTask_of_calibrated hcalibrated, if_pos hcalibrated]
    exact attitudeCounter_control config.undefinedInt16 _ _ _ _ _
  · rw [stabilizerTask_of_not_calibrated hcalibrated, if_neg hcalibrated]

theorem Machine.Alike.interleave {config : Config} {left right : Machine} (halike : left.Alike right)
    {step other : Step} (hstep : step.Alike other) :
    (interleave config left step).Alike (interleave config right other) := by
  obtain ⟨hpending, hcounter⟩ := halike
  cases hstep with
  | message htype hmode =>
    by_cases hidle : left.pending = []
    · have hright : right.pending = [] := by simpa [hidle] using hpending.symm
      rw [interleave_message_of_idle config hidle, interleave_message_of_idle config hright]
      exact ⟨map_location_accesses htype, hcounter⟩
    · have hright : right.pending ≠ [] := by
        intro hright
        apply hidle
        simpa [hright] using hpending
      rw [interleave_message_of_busy config hidle, interleave_message_of_busy config hright]
      exact ⟨hpending, hcounter⟩
  | lcTask =>
    by_cases hidle : left.pending = []
    · have hright : right.pending = [] := by simpa [hidle] using hpending.symm
      rw [interleave_lcTask_of_idle config hidle, interleave_lcTask_of_idle config hright]
      exact ⟨hpending, hcounter⟩
    · obtain ⟨access, rest, hleft⟩ := List.exists_cons_of_ne_nil hidle
      rw [hleft, List.map_cons] at hpending
      obtain ⟨next, later, hright, -, hrest⟩ := List.map_eq_cons_iff.mp hpending.symm
      rw [interleave_lcTask_of_busy config hleft, interleave_lcTask_of_busy config hright]
      refine ⟨hrest.symm, ?_⟩
      rw [Access.perform_stabilizer, Access.perform_stabilizer]
      exact hcounter
  | stabilizerTask sensors =>
    refine ⟨hpending, ?_⟩
    change (stabilizerTask config sensors left.state).2.stabilizer.attitudeCounter =
      (stabilizerTask config sensors right.state).2.stabilizer.attitudeCounter
    rw [attitudeCounter_stabilizerTask, attitudeCounter_stabilizerTask, hcounter]

/-- Two runs of one schedule pass the same points. -/
theorem machineAfter_alike (config : Config) {steps others : List Step}
    (hschedule : List.Forall₂ Step.Alike steps others) :
    (machineAfter config steps).Alike (machineAfter config others) :=
  List.rel_foldl (P := Machine.Alike) (R := Step.Alike)
    (fun _ _ halike _ _ hstep => halike.interleave hstep) ⟨rfl, rfl⟩ hschedule

theorem Machine.Alike.symm {left right : Machine} (halike : left.Alike right) : right.Alike left :=
  ⟨halike.1.symm, halike.2.symm⟩

theorem Machine.Alike.inWindow {left right : Machine} (halike : left.Alike right) {loop : Loop}
    (hwindow : left.InWindow loop) : right.InWindow loop := by
  obtain ⟨location, field, pending, hleft, hloop, hlength⟩ := hwindow
  have hpending := halike.1
  rw [hleft, List.map_cons] at hpending
  obtain ⟨next, later, hright, hnext, hrest⟩ := List.map_eq_cons_iff.mp hpending.symm
  cases next with
  | assign other value =>
    obtain rfl : other = location := Option.some.inj hnext
    refine ⟨other, value, later, hright, hloop, ?_⟩
    have hsame := congrArg List.length hrest
    rw [List.length_map, List.length_map] at hsame
    omega
  | commanderSetRPYType values => exact absurd hnext (by simp [Access.location])

theorem Machine.Alike.computes {left right : Machine} (halike : left.Alike right) {loop : Loop}
    (hcomputes : Computes left.state loop) : Computes right.state loop := by
  cases loop with
  | rate => trivial
  | attitude =>
    unfold Computes at hcomputes ⊢
    rwa [← halike.2]

/-- A payload with one and the same byte in all its gains. -/
def paint (gain : UInt8) (data : Data) : Data := fun i => if (i : ℕ) < 2 then data i else gain

def Step.paint (gain : UInt8) : Step → Step
  | .message data => .message (copter.pidctrl.paint gain data)
  | step => step

theorem loop_paint (gain : UInt8) (data : Data) :
    (PidValues.ofData (paint gain data)).loop = (PidValues.ofData data).loop := rfl

theorem field_paint (gain : UInt8) (data : Data) (location : Location) :
    (PidValues.ofData (paint gain data)).field location = gain.toUInt16 + 256 * gain.toUInt16 := by
  obtain ⟨name, which⟩ := location
  cases name <;> cases which <;> rfl

theorem Step.alike_paint (gain : UInt8) (step : Step) : step.Alike (step.paint gain) := by
  cases step with
  | message data => exact .message rfl rfl
  | lcTask => exact .lcTask
  | stabilizerTask sensors => exact .stabilizerTask sensors

theorem alike_map_paint (gain : UInt8) (steps : List Step) :
    List.Forall₂ Step.Alike steps (steps.map (Step.paint gain)) := by
  rw [List.forall₂_map_right_iff, List.forall₂_same]
  exact fun step _ => step.alike_paint gain

theorem countP_map_paint (gain : UInt8) (steps : List Step) :
    (steps.map (Step.paint gain)).countP isLcTask = steps.countP isLcTask := by
  rw [List.countP_map]
  congr 1
  funext step
  cases step <;> rfl

theorem paint_of_mem {gain : UInt8} {data : Data} {steps : List Step}
    (hmem : .message data ∈ steps.map (Step.paint gain)) : ∃ original, data = paint gain original := by
  obtain ⟨step, -, hstep⟩ := List.mem_map.mp hmem
  cases step with
  | message original => exact ⟨original, (Step.message.inj hstep).symm⟩
  | lcTask => exact absurd hstep (by simp [Step.paint])
  | stabilizerTask sensors => exact absurd hstep (by simp [Step.paint])

/-- No default gain is that of a payload of twos. -/
theorem gains_copter0_ne (config : Config) (location : Location) :
    gains (copter0 config).controller location ≠ hundredths 514 := by
  obtain ⟨name, gain⟩ := location
  have hne : (config.pidValues.gains name).1 ≠ 514 / 100 ∧
      (config.pidValues.gains name).2.1 ≠ 514 / 100 ∧
      (config.pidValues.gains name).2.2 ≠ 514 / 100 := by
    cases config.pidValues <;> cases name <;> norm_num [PidValuesConfig.gains]
  cases gain with
  | kp => exact fun heq => hne.1 (Flt.finite.inj heq)
  | ki => exact fun heq => hne.2.1 (Flt.finite.inj heq)
  | kd => exact fun heq => hne.2.2 (Flt.finite.inj heq)

/-- A gain that only one message carries, seen after some of the assignments for
    that message, is part of no complete set. -/
theorem not_complete_of_torn {config : Config} {before during : List Step} {data : Data} {loop : Loop}
    {torn : Flt} (hidle : (machineAfter config before).pending = [])
    (hloop : (PidValues.ofData data).loop = some loop) (hfirst : 0 < during.countP isLcTask)
    (hlast : during.countP isLcTask < 9)
    (hdata : ∀ location, hundredths ((PidValues.ofData data).field location) = torn)
    (hinitial : ∀ location, gains (copter0 config).controller location ≠ torn)
    (hothers : ∀ other, .message other ∈ before ++ during →
      ∀ location, hundredths ((PidValues.ofData other).field location) ≠ torn) :
    ¬ Complete config (before ++ .message data :: during) loop
      (gains (machineAfter config (before ++ .message data :: during)).state.controller) := by
  have hlength := assignments_length (PidValues.ofData data)
  rw [hloop, Option.isSome_some, if_pos rfl] at hlength
  have hbegun : 0 < (writes (PidValues.ofData data)).length := by rw [writes_length]; omega
  have hunfinished : 8 < (writes (PidValues.ofData data)).length := by rw [writes_length]; omega
  have hnamed : ∀ write ∈ writes (PidValues.ofData data), loopOf write.1.1 = loop ∧ write.2 = torn := by
    intro write hmem
    obtain ⟨hwrite, hfield⟩ := (mem_writes_iff _ write.1 write.2).mp hmem
    exact ⟨Option.some.inj (hwrite.symm.trans hloop), hfield.trans (hdata write.1)⟩
  obtain ⟨hfirstLoop, hfirstTorn⟩ := hnamed _ (List.getElem_mem hbegun)
  obtain ⟨hlastLoop, _⟩ := hnamed _ (List.getElem_mem hunfinished)
  have hold : gains (machineAfter config before).state.controller
      (writes (PidValues.ofData data))[8].1 ≠ torn := by
    intro htorn
    have hcomplete : Complete config before loop (gains (machineAfter config before).state.controller) := by
      apply complete_of_not_inWindow
      rintro ⟨_, _, _, hpending, _⟩
      simp [hidle] at hpending
    obtain hinit | ⟨other, hmem, _, hcarries⟩ := hcomplete
    · exact hinitial _ ((hinit _ hlastLoop).symm.trans htorn)
    · exact hothers other (List.mem_append_left _ hmem) _ ((hcarries _ hlastLoop).symm.trans htorn)
  have hcount : during.countP isLcTask ≤ (accesses (PidValues.ofData data)).length := by
    rw [accesses_length]
    omega
  rw [(machineAfter_during config hidle data hcount).1]
  have hset := storeAll_take_of_lt (writes_nodup (PidValues.ofData data)) hbegun hfirst
    (gains (machineAfter config before).state.controller)
  have hkept := storeAll_take_of_le (writes_nodup (PidValues.ofData data)) hunfinished
    (Nat.le_of_lt_succ hlast) (gains (machineAfter config before).state.controller)
  rintro (hinit | ⟨other, hmem, _, hcarries⟩)
  · exact hinitial _ ((hinit _ hfirstLoop).symm.trans (hset.trans hfirstTorn))
  by_cases hother : .message other ∈ before ++ during
  · exact hothers other hother _ ((hcarries _ hfirstLoop).symm.trans (hset.trans hfirstTorn))
  · have hsame : other = data := by
      simp only [List.mem_append, List.mem_cons, Step.message.injEq] at hmem hother
      tauto
    subst hsame
    exact hold (hkept.symm.trans ((hcarries _ hlastLoop).trans (hdata _)))

/-- A machine in the window is at work on a message for the loop. -/
theorem loop_of_inWindow {machine : Machine} {values : PidValues} {loop : Loop} {k : ℕ}
    (hpending : machine.pending = (accesses values).drop k) (hwindow : machine.InWindow loop) :
    values.loop = some loop ∧ 0 < k ∧ k < 9 := by
  obtain ⟨location, field, pending, hmachine, rfl, hlength⟩ := hwindow
  have hdrop := hpending.symm.trans hmachine
  have hmem : Access.assign location field ∈ accesses values := by
    apply List.mem_of_mem_drop (i := k)
    rw [hdrop]
    exact List.mem_cons_self
  have hloop : values.loop = some (loopOf location.1) := by
    simp only [accesses, List.mem_append, List.mem_map, List.mem_singleton, reduceCtorEq, or_false] at hmem
    obtain ⟨⟨written, value⟩, hassign, hsame⟩ := hmem
    obtain ⟨rfl, rfl⟩ := Access.assign.inj hsame
    exact ((mem_assignments_iff values _ _).mp hassign).1
  have hassignments := assignments_length values
  rw [hloop, Option.isSome_some, if_pos rfl] at hassignments
  have hleft := congrArg List.length hdrop
  rw [List.length_drop, accesses_length, List.length_cons] at hleft
  refine ⟨hloop, by omega, ?_⟩
  by_contra hlast
  obtain rfl : k = ((assignments values).map fun write => Access.assign write.1 write.2).length := by
    rw [List.length_map]
    omega
  rw [accesses, List.drop_left] at hdrop
  simp at hdrop

/-- A schedule with a pass in the window tears the update of some messages. -/
theorem torn_of_not_noneInWindow {config : Config} {steps : List Step}
    (hwindow : ¬ NoneInWindow config steps) :
    ∃ others, List.Forall₂ Step.Alike steps others ∧ ¬ ComputesComplete config others := by
  unfold NoneInWindow at hwindow
  push Not at hwindow
  obtain ⟨prior, sensors, after, rfl, hcalibrated, loop, hcomputes, hopen⟩ := hwindow
  have hpending : (machineAfter config prior).pending ≠ [] := by
    obtain ⟨location, field, pending, hpending, _⟩ := hopen
    rw [hpending]
    exact List.cons_ne_nil _ _
  obtain ⟨before, data, during, rfl, hidle, hcount⟩ := pending_origin config hpending
  obtain ⟨hloop, hfirst, hlast⟩ :=
    loop_of_inWindow ((machineAfter_during config hidle data hcount.le).2 hcount) hopen
  have hbefore := alike_map_paint 1 before
  have hprior : List.Forall₂ Step.Alike (before ++ .message data :: during)
      (before.map (Step.paint 1) ++ .message (paint 2 data) :: during.map (Step.paint 1)) :=
    List.rel_append hbefore (.cons (Step.alike_paint 2 (.message data)) (alike_map_paint 1 during))
  refine ⟨_, List.rel_append hprior (.cons (.stabilizerTask sensors) (alike_map_paint 1 after)), ?_⟩
  intro hcomputesComplete
  have hcomplete := hcomputesComplete _ sensors _ rfl hcalibrated loop
    ((machineAfter_alike config hprior).computes hcomputes)
  refine not_complete_of_torn ?_ ((loop_paint 2 data).trans hloop) ?_ ?_ ?_ (gains_copter0_ne config) ?_
    hcomplete
  · have hsame := (machineAfter_alike config hbefore).1
    rw [hidle] at hsame
    simpa using hsame.symm
  · rwa [countP_map_paint]
  · rwa [countP_map_paint]
  · intro location
    rw [field_paint]
    rfl
  · intro other hmem location
    rw [← List.map_append] at hmem
    obtain ⟨original, rfl⟩ := paint_of_mem hmem
    rw [field_paint]
    exact hundredths_injective.ne (by decide)

/-- In every run a handled message sets its gains exactly and nothing else. Whatever
    gains the messages of a schedule carry, the loops see them all at once if and
    only if no pass falls between the assignments for a loop it computes. -/
theorem gain_updates (config : Config) (steps : List Step) :
    SetsExactly config steps ∧ TouchesGainsOnly config steps ∧
      ((∀ others, List.Forall₂ Step.Alike steps others → ComputesComplete config others) ↔
        NoneInWindow config steps) := by
  refine ⟨setsExactly config steps, touchesGainsOnly config steps, ?_, ?_⟩
  · intro hcomplete
    by_contra hwindow
    obtain ⟨others, hschedule, htorn⟩ := torn_of_not_noneInWindow hwindow
    exact htorn (hcomplete others hschedule)
  · intro hwindow others hschedule before sensors after hothers hcalibrated loop hcomputes
    subst hothers
    have hbefore := List.forall₂_take_append _ _ _ hschedule
    have hafter := List.forall₂_drop_append _ _ _ hschedule
    obtain ⟨step, rest, hstep, _, hdrop⟩ := List.forall₂_cons_right_iff.mp hafter
    have halike := machineAfter_alike config hbefore
    cases hstep with
    | stabilizerTask =>
      apply complete_of_not_inWindow
      intro hopen
      have hsteps : steps = steps.take before.length ++ .stabilizerTask sensors :: rest := by
        rw [← hdrop, List.take_append_drop]
      exact hwindow _ sensors rest hsteps hcalibrated loop (halike.symm.computes hcomputes)
        (halike.symm.inWindow hopen)

/-- A pass after the first of nine assignments computes the rates with one gain of
    the message and eight initial ones. -/
theorem not_computesComplete_after_first_assignment :
    ¬ ComputesComplete (tlm_vf610_defconfig (fun _ => 0) (fun _ => 0))
      [.message (paint 2 (fun _ => 0)), .lcTask, .stabilizerTask ⟨true, ⟨0, 0, 0⟩, ⟨0, 0, 0⟩⟩] := by
  intro hcomplete
  have hpass := hcomplete [.message (paint 2 (fun _ => 0)), .lcTask] _ [] rfl rfl .rate trivial
  have htorn : ¬ Complete (tlm_vf610_defconfig (fun _ => 0) (fun _ => 0))
      ([] ++ .message (paint 2 (fun _ => 0)) :: [.lcTask]) .rate _ :=
    not_complete_of_torn rfl rfl (by decide) (by decide) (fun location => by rw [field_paint]; rfl)
      (gains_copter0_ne _) (fun other hother => by simp at hother)
  exact htorn hpass

end copter.pidctrl
