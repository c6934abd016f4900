import CopterOS.Copter
import CopterOS.Lib.Stores

open stores number copter.commander copter.controller copter.linux_client copter.pid copter.stabilizer

namespace copter.pidctrl

inductive Gain where
  | kp
  | ki
  | kd
  deriving DecidableEq

/-- The two control loops a message can name. -/
inductive Loop where
  | rate
  | attitude
  deriving DecidableEq

/-- One of the eighteen gains. -/
abbrev Location := PidName × Gain

def loopOf : PidName → Loop
  | .pidRollRate => .rate
  | .pidPitchRate => .rate
  | .pidYawRate => .rate
  | .pidRoll => .attitude
  | .pidPitch => .attitude
  | .pidYaw => .attitude

def Gain.get (pid : PidObject Flt) : Gain → Flt
  | .kp => pid.kp
  | .ki => pid.ki
  | .kd => pid.kd

def Gain.set (value : Flt) (pid : PidObject Flt) : Gain → PidObject Flt
  | .kp => pidSetKp value pid
  | .ki => pidSetKi value pid
  | .kd => pidSetKd value pid

/-- The gains as a memory. -/
def gains (controller : Controller Flt) (location : Location) : Flt :=
  location.2.get (controller.pid location.1)

/-- A field of the message in hundredths. -/
def hundredths (field : UInt16) : Flt := ((field.toNat / 100 : ℚ) : Flt)

/-- The assignments of the handler in the order of the source. -/
def assignments (values : PidValues) : List (Location × UInt16) :=
  match values.type.toNat with
  | 0 =>
    [((.pidRollRate, .kp), values.KpR), ((.pidRollRate, .ki), values.KiR), ((.pidRollRate, .kd), values.KdR),
      ((.pidPitchRate, .kp), values.KpP), ((.pidPitchRate, .ki), values.KiP),
      ((.pidPitchRate, .kd), values.KdP), ((.pidYawRate, .kp), values.KpY), ((.pidYawRate, .ki), values.KiY),
      ((.pidYawRate, .kd), values.KdY)]
  | 1 =>
    [((.pidRoll, .kp), values.KpR), ((.pidRoll, .ki), values.KiR), ((.pidRoll, .kd), values.KdR),
      ((.pidPitch, .kp), values.KpP), ((.pidPitch, .ki), values.KiP), ((.pidPitch, .kd), values.KdP),
      ((.pidYaw, .kp), values.KpY), ((.pidYaw, .ki), values.KiY), ((.pidYaw, .kd), values.KdY)]
  | _ => []

/-- The loop a message names by its type. -/
def PidValues.loop (values : PidValues) : Option Loop :=
  match values.type.toNat with
  | 0 => some .rate
  | 1 => some .attitude
  | _ => none

/-- The field of a message for a gain of the loop it names, in roll, pitch, yaw
    order. -/
def PidValues.field (values : PidValues) : Location → UInt16
  | (.pidRollRate, .kp) | (.pidRoll, .kp) => values.KpR
  | (.pidRollRate, .ki) | (.pidRoll, .ki) => values.KiR
  | (.pidRollRate, .kd) | (.pidRoll, .kd) => values.KdR
  | (.pidPitchRate, .kp) | (.pidPitch, .kp) => values.KpP
  | (.pidPitchRate, .ki) | (.pidPitch, .ki) => values.KiP
  | (.pidPitchRate, .kd) | (.pidPitch, .kd) => values.KdP
  | (.pidYawRate, .kp) | (.pidYaw, .kp) => values.KpY
  | (.pidYawRate, .ki) | (.pidYaw, .ki) => values.KiY
  | (.pidYawRate, .kd) | (.pidYaw, .kd) => values.KdY

/-- One access of the handler to the variables it shares with the loop. -/
inductive Access where
  | assign (location : Location) (field : UInt16)
  | commanderSetRPYType (values : PidValues)

def accesses (values : PidValues) : List Access :=
  (assignments values).map (fun write => .assign write.1 write.2) ++ [.commanderSetRPYType values]

/-- The call of `pidSetKp`, `pidSetKi` or `pidSetKd` behind one assignment. -/
def pidSet (location : Location) (field : UInt16) (controller : Controller Flt) : Controller Flt :=
  { controller with
    pid := Function.update controller.pid location.1
      (location.2.set (hundredths field) (controller.pid location.1)) }

def Access.perform (state : Copter) : Access → Copter
  | .assign location field => { state with controller := pidSet location field state.controller }
  | .commanderSetRPYType values => { state with comm := setModes values state.comm }

/-- The fields of an object other than its gains. -/
structure SameButGains (left right : PidObject Flt) : Prop where
  desired : left.desired = right.desired
  error : left.error = right.error
  prevError : left.prevError = right.prevError
  integ : left.integ = right.integ
  deriv : left.deriv = right.deriv
  iLimit : left.iLimit = right.iLimit
  iLimitLow : left.iLimitLow = right.iLimitLow
  dt : left.dt = right.dt

/-- The assignments as writes to the memory of gains. -/
def writes (values : PidValues) : List (Location × Flt) :=
  (assignments values).map fun write => (write.1, hundredths write.2)

/-- Different fields are different gains. -/
theorem hundredths_injective : Function.Injective hundredths := by
  intro left right hsame
  have hquotient : (left.toNat / 100 : ℚ) = right.toNat / 100 := Flt.finite.inj hsame
  have hnat : (left.toNat : ℚ) = right.toNat := by linarith
  exact UInt16.toNat_inj.mp (by exact_mod_cast hnat)

theorem mem_assignments_iff (values : PidValues) (location : Location) (field : UInt16) :
    (location, field) ∈ assignments values ↔
      values.loop = some (loopOf location.1) ∧ field = values.field location := by
  obtain ⟨name, gain⟩ := location
  unfold assignments PidValues.loop
  split <;> cases name <;> cases gain <;> simp [loopOf, PidValues.field]

theorem assignments_nodup (values : PidValues) : ((assignments values).map Prod.fst).Nodup := by
  unfold assignments
  split <;> simp

/-- The handler makes nine assignments or, for an unknown type, none. -/
theorem assignments_length (values : PidValues) :
    (assignments values).length = if values.loop.isSome then 9 else 0 := by
  unfold assignments PidValues.loop
  split <;> rfl

theorem accesses_length (values : PidValues) :
    (accesses values).length = (assignments values).length + 1 := by
  simp [accesses]

theorem accesses_ne_nil (values : PidValues) : accesses values ≠ [] := by
  simp [accesses]

theorem writes_length (values : PidValues) : (writes values).length = (assignments values).length := by
  unfold writes
  rw [List.length_map]

theorem writes_nodup (values : PidValues) : ((writes values).map Prod.fst).Nodup := by
  unfold writes
  rw [List.map_map]
  exact assignments_nodup values

theorem mem_writes_iff (values : PidValues) (location : Location) (gain : Flt) :
    (location, gain) ∈ writes values ↔
      values.loop = some (loopOf location.1) ∧ gain = hundredths (values.field location) := by
  unfold writes
  rw [List.mem_map]
  constructor
  · rintro ⟨⟨written, field⟩, hmem, hwrite⟩
    obtain ⟨rfl, rfl⟩ := Prod.mk.inj hwrite
    obtain ⟨hloop, rfl⟩ := (mem_assignments_iff values written field).mp hmem
    exact ⟨hloop, rfl⟩
  · rintro ⟨hloop, rfl⟩
    exact ⟨(location, values.field location), (mem_assignments_iff values _ _).mpr ⟨hloop, rfl⟩, rfl⟩

theorem gains_pidSet (location : Location) (field : UInt16) (controller : Controller Flt) :
    gains (pidSet location field controller) =
      Function.update (gains controller) location (hundredths field) := by
  obtain ⟨name, gain⟩ := location
  funext ⟨other, otherGain⟩
  by_cases hname : other = name
  · subst hname
    by_cases hgain : otherGain = gain
    · subst hgain
      cases otherGain <;> simp [gains, pidSet, Gain.get, Gain.set, pidSetKp, pidSetKi, pidSetKd]
    · have hne : ((other, otherGain) : Location) ≠ (other, gain) := by simp [hgain]
      rw [Function.update_of_ne hne]
      cases otherGain <;> cases gain <;>
        simp_all [gains, pidSet, Gain.get, Gain.set, pidSetKp, pidSetKi, pidSetKd]
  · have hne : ((other, otherGain) : Location) ≠ (name, gain) := by simp [hname]
    rw [Function.update_of_ne hne]
    simp [gains, pidSet, hname]

/-- The next access of a handler after `k` of them, and the writes it adds. -/
theorem accesses_drop (values : PidValues) {k : ℕ} (hk : k < (accesses values).length) :
    ∃ access, (accesses values).drop k = access :: (accesses values).drop (k + 1) ∧
      ∀ state memory, gains state.controller = storeAll memory ((writes values).take k) →
        gains (access.perform state).controller = storeAll memory ((writes values).take (k + 1)) := by
  refine ⟨(accesses values)[k], List.drop_eq_getElem_cons hk, ?_⟩
  intro state memory hmemory
  have hbound := hk
  rw [accesses_length] at hbound
  by_cases hassign : k < (assignments values).length
  · have haccess : (accesses values)[k] =
        .assign (assignments values)[k].1 (assignments values)[k].2 := by
      simp [accesses, hassign]
    have hwrites : (writes values).take (k + 1) = (writes values).take k ++
        [((assignments values)[k].1, hundredths (assignments values)[k].2)] := by
      rw [List.take_succ_eq_append_getElem (by rw [writes_length]; exact hassign)]
      simp only [writes, List.getElem_map]
    rw [haccess, hwrites, storeAll_concat, ← hmemory]
    exact gains_pidSet _ _ _
  · have hlast : (assignments values).length ≤ k := by omega
    have haccess : (accesses values)[k] =
        .commanderSetRPYType values := by
      simp [accesses, List.getElem_append, hassign]
    have hwrites : (writes values).take (k + 1) = (writes values).take k := by
      rw [← writes_length] at hlast
      rw [List.take_of_length_le hlast, List.take_of_length_le (Nat.le_succ_of_le hlast)]
    rw [haccess, hwrites, ← hmemory]
    rfl

/-- The handler writes no gain of a loop its message does not name. -/
theorem storeAll_writes_of_ne {values : PidValues} {location : Location}
    (hloop : values.loop ≠ some (loopOf location.1)) (memory : Location → Flt) (k : ℕ) :
    storeAll memory ((writes values).take k) location = memory location := by
  apply storeAll_of_not_mem
  intro hwritten
  obtain ⟨⟨written, gain⟩, hmem, rfl⟩ := List.mem_map.mp hwritten
  exact hloop ((mem_writes_iff values written gain).mp (List.mem_of_mem_take hmem)).1

/-- All nine assignments together write every gain of the named loop. -/
theorem storeAll_writes_of_eq {values : PidValues} {location : Location}
    (hloop : values.loop = some (loopOf location.1)) (memory : Location → Flt) {k : ℕ}
    (hk : (assignments values).length ≤ k) :
    storeAll memory ((writes values).take k) location = hundredths (values.field location) := by
  rw [List.take_of_length_le (by rw [writes_length]; exact hk)]
  exact storeAll_of_mem (writes_nodup values) ((mem_writes_iff values location _).mpr ⟨hloop, rfl⟩) memory

theorem SameButGains.refl (pid : PidObject Flt) : SameButGains pid pid :=
  ⟨rfl, rfl, rfl, rfl, rfl, rfl, rfl, rfl⟩

theorem sameButGains_pidSet (location : Location) (field : UInt16) (controller : Controller Flt)
    (name : PidName) : SameButGains ((pidSet location field controller).pid name) (controller.pid name) := by
  obtain ⟨written, gain⟩ := location
  by_cases hname : name = written
  · subst hname
    simp only [pidSet, Function.update_self]
    cases gain <;> exact ⟨rfl, rfl, rfl, rfl, rfl, rfl, rfl, rfl⟩
  · simp only [pidSet, Function.update_of_ne hname]
    exact SameButGains.refl _

/-- Undisturbed, the accesses amount to what the handler does. -/
theorem perform_accesses (stack : Data) (msg : LcMsg) (state : Copter) :
    (accesses (PidValues.ofData msg.data)).foldl Access.perform state =
      let after := (pidCrtlCallback stack msg (state.controller, state.comm)).1
      { state with controller := after.1, comm := after.2 } := by
  simp only [pidCrtlCallback, accesses, assignments, setPidValues]
  generalize (PidValues.ofData msg.data).type.toNat = type
  cases type with
  | zero =>
    simp only [List.map_cons, List.map_nil, List.cons_append, List.nil_append, List.foldl_cons,
      List.foldl_nil, Access.perform, pidSet, Copter.mk.injEq, Controller.mk.injEq, true_and, and_true]
    funext name
    cases name <;> rfl
  | succ type =>
    cases type with
    | zero =>
      simp only [List.map_cons, List.map_nil, List.cons_append, List.nil_append, List.foldl_cons,
        List.foldl_nil, Access.perform, pidSet, Copter.mk.injEq, Controller.mk.injEq, true_and, and_true]
      funext name
      cases name <;> rfl
    | succ type => rfl

/-- An update and a reset leave the gains alone. -/
theorem gains_controllerCorrectRatePID (undefined : Flt → Int16) (rateActual rateDesired : RPY Flt)
    (controller : Controller Flt) :
    gains (controllerCorrectRatePID undefined rateActual rateDesired controller) = gains controller := by
  funext ⟨name, gain⟩
  cases name <;> cases gain <;> rfl

theorem gains_controllerCorrectAttitudePID (eulerActual eulerDesired : RPY Flt)
    (controller : Controller Flt) :
    gains (controllerCorrectAttitudePID eulerActual eulerDesired controller).2 = gains controller := by
  funext ⟨name, gain⟩
  cases name <;> cases gain <;> rfl

theorem gains_controllerResetAllPID (controller : Controller Flt) :
    gains (controllerResetAllPID controller) = gains controller := by
  funext ⟨name, gain⟩
  cases gain <;> rfl

theorem gains_control (undefined : Flt → Int16) (sensors : Sensors) (eulerDesired : RPY Flt)
    (types : RPY RPYType) (stabilizer : Stabilizer) (controller : Controller Flt) :
    gains (copter.stabilizer.control undefined sensors eulerDesired types stabilizer controller).2 =
      gains controller := by
  simp only [copter.stabilizer.control, gains_controllerCorrectRatePID, correctAttitude]
  split
  · exact gains_controllerCorrectAttitudePID _ _ controller
  · rfl

theorem gains_actuate (thrust : UInt16) (controller : Controller Flt) :
    gains (actuate thrust controller).2 = gains controller := by
  unfold actuate
  split
  · rfl
  · exact gains_controllerResetAllPID controller

/-- A pass of the stabilizer task computes with the gains and keeps them. -/
theorem gains_stabilizerTask (config : Config) (sensors : Sensors) (state : Copter) :
    gains (stabilizerTask config sensors state).2.controller = gains state.controller := by
  by_cases hcalibrated : sensors.imu6IsCalibrated = true
  · rw [stabilizerTask_of_calibrated hcalibrated]
    exact (gains_actuate _ _).trans (gains_control _ _ _ _ _ _)
  · rw [stabilizerTask_of_not_calibrated hcalibrated]

end copter.pidctrl
