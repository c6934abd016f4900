import CopterOS.Copter

open number copter.commander copter.controller copter.emergency copter.linux_commander copter.pid
open copter.pidctrl copter.rc_commander

namespace copter.linux_client

/-- The sources a selection code names. -/
def selection (code : UInt8) : Option (ThrustCallback × RPYCallback) :=
  match code.toNat with
  | 0 => some (.rcComm_GetThrust, .rcComm_GetRPY)
  | 1 => some (.linuxComm_GetThrust, .linuxComm_GetRPY)
  | 2 => some (.linuxComm_GetThrust, .rcComm_GetRPY)
  | 3 => some (.rcComm_GetThrust, .linuxComm_GetRPY)
  | _ => none

/-- The three objects whose gains a PID message of the given type names. -/
def gainSet (type : UInt8) : Option (RPY PidName) :=
  match type.toNat with
  | 0 => some ⟨.pidRollRate, .pidPitchRate, .pidYawRate⟩
  | 1 => some ⟨.pidRoll, .pidPitch, .pidYaw⟩
  | _ => none

/-- The gains of an object in hundredths. -/
def HasGains (pid : PidObject Flt) (kp ki kd : UInt16) : Prop :=
  pid.kp = .finite (kp.toNat / 100) ∧ pid.ki = .finite (ki.toNat / 100) ∧ pid.kd = .finite (kd.toNat / 100)

/-- A PID message has set nine gains and three modes. -/
def GainsSet (values : PidValues) (next : Copter) : Prop :=
  (∃ names, gainSet values.type = some names ∧
    HasGains (next.controller.pid names.roll) values.KpR values.KiR values.KdR ∧
    HasGains (next.controller.pid names.pitch) values.KpP values.KiP values.KdP ∧
    HasGains (next.controller.pid names.yaw) values.KpY values.KiY values.KdY) ∧
  commanderGetRPYType next.comm = ⟨IS_BIT_SET values.mode PID_ATT_MODE_R,
    IS_BIT_SET values.mode PID_ATT_MODE_P, IS_BIT_SET values.mode PID_ATT_MODE_Y⟩

/-- The change a message asks for has taken effect completely. -/
structure Effective (start : Copter) (msg : LcMsg) (next : Copter) : Prop where
  control : msg.type = LC_TYPE_CONTROL → next.ctl = AutocoptControl.ofData msg.data
  select : msg.type = LC_TYPE_SELECT → ∃ sources, selection (msg.data 0) = some sources ∧
    next.comm.getThrust = some sources.1 ∧ next.comm.getRPY = some sources.2
  pid : msg.type = LC_TYPE_PID → GainsSet (PidValues.ofData msg.data) next
  emergency : msg.type = LC_TYPE_EMERGENCY → next.emer = emergency_landing start.emer

/-- The sources and modes of the commander, the six objects and the set-point
    are the same. -/
structure Unchanged (start next : Copter) : Prop where
  getThrust : next.comm.getThrust = start.comm.getThrust
  getRPY : next.comm.getRPY = start.comm.getRPY
  types : commanderGetRPYType next.comm = commanderGetRPYType start.comm
  pid : next.controller.pid = start.controller.pid
  ctl : next.ctl = start.ctl

/-- A message has been answered once and truthfully. -/
def Truthful (start : Copter) (msg : LcMsg) (result : Copter × List LcMsg) : Prop :=
  ∃ reply, result.2 = [reply] ∧ (reply.type = LC_TYPE_FAILT ∨ reply.type = LC_TYPE_ACT) ∧
    (reply.type = LC_TYPE_FAILT → Unchanged start result.1) ∧
    (reply.type = LC_TYPE_ACT → Effective start msg result.1)

/-- The message names no unknown gain set, and selects no thrust source that a
    held lock would refuse. -/
def Answerable (start : Copter) (msg : LcMsg) : Prop :=
  (msg.type = LC_TYPE_PID → gainSet (msg.data 0) ≠ none) ∧
  (msg.type = LC_TYPE_SELECT → ∀ sources, selection (msg.data 0) = some sources →
    start.comm.thrustLocked = true → start.comm.getThrust = some sources.1)

theorem Unchanged.refl (start : Copter) : Unchanged start start := ⟨rfl, rfl, rfl, rfl, rfl⟩

/-- An acknowledgement is true when the change has taken effect. -/
theorem truthful_act_iff {start next : Copter} {msg reply : LcMsg} (hreply : reply.type = LC_TYPE_ACT) :
    Truthful start msg (next, [reply]) ↔ Effective start msg next := by
  constructor
  · rintro ⟨sent, hsent, _, _, heffective⟩
    obtain rfl : reply = sent := by simpa using hsent
    exact heffective hreply
  · intro heffective
    refine ⟨reply, rfl, .inr hreply, ?_, fun _ => heffective⟩
    intro hfailt
    exact absurd (hreply.symm.trans hfailt) (by decide)

/-- A refusal is true when nothing has changed. -/
theorem truthful_failt_iff {start next : Copter} {msg : LcMsg} (stack : Data) :
    Truthful start msg (next, lc_sendFailt stack) ↔ Unchanged start next := by
  constructor
  · rintro ⟨sent, hsent, _, hunchanged, _⟩
    obtain rfl : (⟨LC_TYPE_FAILT, stack⟩ : LcMsg) = sent := by simpa [lc_sendFailt] using hsent
    exact hunchanged rfl
  · intro hunchanged
    refine ⟨⟨LC_TYPE_FAILT, stack⟩, rfl, .inl rfl, fun _ => hunchanged, ?_⟩
    have hdifferent : LC_TYPE_FAILT ≠ LC_TYPE_ACT := by decide
    exact fun hact => absurd hact hdifferent

/-- A message of a type without a request is answered truthfully by any reply
    that changes nothing. -/
theorem effective_of_type {start next : Copter} {msg : LcMsg} (hcontrol : msg.type ≠ LC_TYPE_CONTROL)
    (hselect : msg.type ≠ LC_TYPE_SELECT) (hpid : msg.type ≠ LC_TYPE_PID)
    (hemergency : msg.type ≠ LC_TYPE_EMERGENCY) : Effective start msg next where
  control htype := absurd htype hcontrol
  select htype := absurd htype hselect
  pid htype := absurd htype hpid
  emergency htype := absurd htype hemergency

/-- A message of a type without a condition is answerable. -/
theorem answerable_of_type {start : Copter} {msg : LcMsg} (hpid : msg.type ≠ LC_TYPE_PID)
    (hselect : msg.type ≠ LC_TYPE_SELECT) : Answerable start msg :=
  ⟨fun htype => absurd htype hpid, fun htype => absurd htype hselect⟩

/-- The switch over a known type sets the nine gains of its three objects. -/
theorem setPidValues_gains {values : PidValues} {names : RPY PidName}
    (hnames : gainSet values.type = some names) (controller : Controller Flt) :
    HasGains ((setPidValues values controller).pid names.roll) values.KpR values.KiR values.KdR ∧
      HasGains ((setPidValues values controller).pid names.pitch) values.KpP values.KiP values.KdP ∧
      HasGains ((setPidValues values controller).pid names.yaw) values.KpY values.KiY values.KdY := by
  unfold gainSet at hnames
  split at hnames
  · rename_i htype
    obtain rfl := Option.some.inj hnames
    simp only [setPidValues, htype]
    exact ⟨⟨rfl, rfl, rfl⟩, ⟨rfl, rfl, rfl⟩, ⟨rfl, rfl, rfl⟩⟩
  · rename_i htype
    obtain rfl := Option.some.inj hnames
    simp only [setPidValues, htype]
    exact ⟨⟨rfl, rfl, rfl⟩, ⟨rfl, rfl, rfl⟩, ⟨rfl, rfl, rfl⟩⟩
  · cases hnames

/-- A PID message is always acknowledged, and it has set its gains exactly when
    it names a gain set. -/
theorem truthful_pid_iff {msg : LcMsg} (htype : msg.type = LC_TYPE_PID) (stack : Data) (start : Copter) :
    Truthful start msg (lcTask lc stack msg start) ↔ gainSet (msg.data 0) ≠ none := by
  rw [lcTask_of_callback 2 (by rw [htype]; rfl) rfl]
  simp only [Callback.over, pidCrtlCallback, lc_sendAct]
  rw [truthful_act_iff rfl]
  constructor
  · intro heffective hnone
    obtain ⟨⟨names, hnames, _⟩, _⟩ := heffective.pid htype
    rw [show (PidValues.ofData msg.data).type = msg.data 0 from rfl, hnone] at hnames
    cases hnames
  · intro hsome
    obtain ⟨names, hnames⟩ := Option.ne_none_iff_exists'.mp hsome
    exact {
      control := fun hother => absurd (htype.symm.trans hother) (by decide)
      select := fun hother => absurd (htype.symm.trans hother) (by decide)
      pid := fun _ => ⟨⟨names, hnames, setPidValues_gains hnames start.controller⟩, rfl⟩
      emergency := fun hother => absurd (htype.symm.trans hother) (by decide) }

/-- A control message is refused without a change or stored. -/
theorem truthful_control {msg : LcMsg} (htype : msg.type = LC_TYPE_CONTROL) (stack : Data) (start : Copter) :
    Truthful start msg (lcTask lc stack msg start) := by
  rw [lcTask_of_callback 4 (by rw [htype]; rfl) rfl]
  simp only [Callback.over, lc_control]
  by_cases hrefused : (AutocoptControl.ofData msg.data).Refused
  · rw [if_pos hrefused]
    exact (truthful_failt_iff stack).mpr (Unchanged.refl start)
  · rw [if_neg hrefused]
    apply (truthful_act_iff rfl).mpr
    exact {
      control := fun _ => rfl
      select := fun hother => absurd (htype.symm.trans hother) (by decide)
      pid := fun hother => absurd (htype.symm.trans hother) (by decide)
      emergency := fun hother => absurd (htype.symm.trans hother) (by decide) }

/-- A code selects its two sources one after the other, and any other value of
    the byte is refused. -/
theorem lc_select_eq (stack : Data) (msg : LcMsg) (comm : Commander ThrustCallback RPYCallback) :
    lc_select stack msg comm =
      match selection (msg.data 0) with
      | some (getThrust, getRPY) =>
        (commanderSetRPY (some getRPY) (commanderSetThrust (some getThrust) comm), lc_sendAct)
      | none => (comm, lc_sendFailt stack) := by
  unfold lc_select selection
  generalize (msg.data 0).toNat = code
  rcases code with _ | _ | _ | _ | code <;> rfl

/-- A selection is true exactly when its code is unknown or no held lock refuses
    the thrust source it names. -/
theorem truthful_select_iff {msg : LcMsg} (htype : msg.type = LC_TYPE_SELECT) (stack : Data)
    (start : Copter) :
    Truthful start msg (lcTask lc stack msg start) ↔
      ∀ sources, selection (msg.data 0) = some sources → start.comm.thrustLocked = true →
        start.comm.getThrust = some sources.1 := by
  rw [lcTask_of_callback 3 (by rw [htype]; rfl) rfl]
  simp only [Callback.over, lc_select_eq]
  cases hselection : selection (msg.data 0) with
  | none => simp [truthful_failt_iff, Unchanged.refl]
  | some sources =>
    obtain ⟨getThrust, getRPY⟩ := sources
    rw [show lc_sendAct = [⟨LC_TYPE_ACT, fun _ => 0⟩] from rfl, truthful_act_iff rfl]
    constructor
    · intro heffective sources hsources hlocked
      obtain ⟨named, hnamed, hthrust, _⟩ := heffective.select htype
      rw [hselection] at hnamed
      obtain rfl := Option.some.inj hnamed
      obtain rfl := Option.some.inj hsources
      simpa [commanderSetRPY, commanderSetThrust_of_locked hlocked] using hthrust
    · intro hunlocked
      refine {
        control := fun hother => absurd (htype.symm.trans hother) (by decide)
        select := fun _ => ⟨_, hselection, ?_, rfl⟩
        pid := fun hother => absurd (htype.symm.trans hother) (by decide)
        emergency := fun hother => absurd (htype.symm.trans hother) (by decide) }
      cases hlocked : start.comm.thrustLocked with
      | true => simpa [commanderSetRPY, commanderSetThrust_of_locked hlocked] using hunlocked _ rfl hlocked
      | false => simp [commanderSetRPY, commanderSetThrust, hlocked]

/-- A landing request is passed on and acknowledged. -/
theorem truthful_emergency {msg : LcMsg} (htype : msg.type = LC_TYPE_EMERGENCY) (stack : Data)
    (start : Copter) : Truthful start msg (lcTask lc stack msg start) := by
  rw [lcTask_of_callback 5 (by rw [htype]; rfl) rfl]
  apply (truthful_act_iff rfl).mpr
  exact {
    control := fun hother => absurd (htype.symm.trans hother) (by decide)
    select := fun hother => absurd (htype.symm.trans hother) (by decide)
    pid := fun hother => absurd (htype.symm.trans hother) (by decide)
    emergency := fun _ => rfl }

/-- A message that asks for nothing comes back under another type, and a message
    of an unknown type is refused. -/
theorem truthful_other {msg : LcMsg} (hcontrol : msg.type ≠ LC_TYPE_CONTROL)
    (hselect : msg.type ≠ LC_TYPE_SELECT) (hpid : msg.type ≠ LC_TYPE_PID)
    (hemergency : msg.type ≠ LC_TYPE_EMERGENCY) (stack : Data) (start : Copter) :
    Truthful start msg (lcTask lc stack msg start) := by
  have heffective : Effective start msg start := effective_of_type hcontrol hselect hpid hemergency
  by_cases hact : msg.type = LC_TYPE_ACT
  · rw [lcTask_of_callback 0 (by rw [hact]; rfl) rfl]
    exact (truthful_act_iff rfl).mpr heffective
  · by_cases hfailt : msg.type = LC_TYPE_FAILT
    · rw [lcTask_of_callback 1 (by rw [hfailt]; rfl) rfl]
      exact (truthful_act_iff rfl).mpr heffective
    · have hunknown : ¬ msg.type.toNat < LC_COUNT := by
        simp only [← UInt8.toNat_inj, ne_eq] at hcontrol hselect hpid hemergency hact hfailt
        simp only [LC_TYPE_CONTROL, LC_TYPE_SELECT, LC_TYPE_PID, LC_TYPE_EMERGENCY, LC_TYPE_ACT, LC_TYPE_FAILT,
          UInt8.toNat_ofNat] at hcontrol hselect hpid hemergency hact hfailt
        change ¬ msg.type.toNat < 6
        omega
      rw [lcTask_of_unknown hunknown]
      exact (truthful_failt_iff stack).mpr (Unchanged.refl start)

/-- In every state, every message is answered once, and truthfully exactly when
    it is answerable. -/
theorem lcTask_truthful_iff (stack : Data) (msg : LcMsg) (start : Copter) :
    Truthful start msg (lcTask lc stack msg start) ↔ Answerable start msg := by
  by_cases hpid : msg.type = LC_TYPE_PID
  · have hselect : msg.type ≠ LC_TYPE_SELECT := fun hother => absurd (hpid.symm.trans hother) (by decide)
    rw [truthful_pid_iff hpid]
    exact ⟨fun hknown => ⟨fun _ => hknown, fun hother => absurd hother hselect⟩,
      fun hanswerable => hanswerable.1 hpid⟩
  · by_cases hselect : msg.type = LC_TYPE_SELECT
    · rw [truthful_select_iff hselect]
      exact ⟨fun hfree => ⟨fun hother => absurd hother hpid, fun _ => hfree⟩,
        fun hanswerable => hanswerable.2 hselect⟩
    · have hanswerable : Answerable start msg := answerable_of_type hpid hselect
      refine iff_of_true ?_ hanswerable
      by_cases hcontrol : msg.type = LC_TYPE_CONTROL
      · exact truthful_control hcontrol stack start
      · by_cases hemergency : msg.type = LC_TYPE_EMERGENCY
        · exact truthful_emergency hemergency stack start
        · exact truthful_other hcontrol hselect hpid hemergency stack start

/-- A PID message of type 2 after power-up is acknowledged without any gain set. -/
theorem not_truthful_unknown_gain_set :
    let msg : LcMsg := ⟨LC_TYPE_PID, fun _ => 2⟩
    let start := copter0 (tlm_vf610_defconfig (fun _ => 0) (fun _ => 0))
    ¬ Truthful start msg (lcTask lc (fun _ => 0) msg start) := by
  intro msg start htruthful
  exact (truthful_pid_iff rfl _ start).mp htruthful rfl

end copter.linux_client
