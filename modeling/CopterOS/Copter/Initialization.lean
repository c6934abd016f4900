import CopterOS.Copter
import CopterOS.Lib.OneShot

open transition one_shot copter.linux_client copter.linux_commander copter.remote_control copter.pidctrl
open copter.emergency

namespace copter.initialization

/-- Handles of the drivers and of the kernel. -/
abbrev Buffer := ℕ
abbrev Timer := ℕ
abbrev SemaphoreHandle := ℕ

/-- What an initialization tests. -/
inductive Test where
  | buffer_init_rx
  | buffer_init_tx
  | timer
  | timer_setOverflowCallback
  | xSemaphoreCreateMutex
  deriving DecidableEq

/-- The `struct lc`. -/
structure LcUnit where
  init : Bool
  rx : Option Buffer
  tx : Option Buffer
  lc : Lc Copter

/-- The `struct rc`. -/
structure RcUnit where
  init : Bool
  rc : Rc
  timer : Option Timer

/-- The parts of the `struct linuxComm` that its initialization tests and sets. -/
structure LinuxCommUnit where
  init : Bool
  mutex : Option SemaphoreHandle

structure Units where
  lc : LcUnit
  rc : RcUnit
  linuxComm : LinuxCommUnit

/-- The static initial values. -/
def units0 : Units where
  lc := { init := false, rx := none, tx := none, lc := { callbacks := fun _ => none } }
  rc := { init := false, rc := rc0, timer := none }
  linuxComm := { init := false, mutex := none }

def lc_init (rx tx : Option Buffer) (lc : LcUnit) : Reply Test × LcUnit :=
  if lc.init then (⟨true, []⟩, lc)
  else
    let lc : LcUnit := { init := false, rx := none, tx := none, lc := { callbacks := fun _ => none } }
    let lc := { lc with rx := rx }
    if rx = none then (⟨false, [(.buffer_init_rx, false)]⟩, lc)
    else
      let lc := { lc with tx := tx }
      if tx = none then (⟨false, [(.buffer_init_rx, true), (.buffer_init_tx, false)]⟩, lc)
      else
        (⟨true, [(.buffer_init_rx, true), (.buffer_init_tx, true)]⟩,
          { lc with
            init := true
            lc := copter.linux_client.lc_init fun state => { state with emer := emergency_landing state.emer } })

/-- A refused callback releases the unit, which is none of the heap's. -/
def rc_init (vPortFree : RcUnit → RcUnit) (timer : Option Timer) (setOverflowCallback : ℤ) (rc : RcUnit) :
    Reply Test × RcUnit :=
  if rc.init then (⟨true, []⟩, rc)
  else if timer = none then (⟨false, [(.timer, false)]⟩, rc)
  else
    let rc : RcUnit := { init := true, rc := rc0, timer := timer }
    if setOverflowCallback < 0 then
      (⟨false, [(.timer, true), (.timer_setOverflowCallback, false)]⟩, vPortFree rc)
    else (⟨true, [(.timer, true), (.timer_setOverflowCallback, true)]⟩, rc)

/-- The handlers are registered with the one `struct lc` there is. -/
def linuxComm_init (mutex : Option SemaphoreHandle) (lc : LcUnit) (comm : LinuxCommUnit) :
    Reply Test × LcUnit × LinuxCommUnit :=
  if comm.init then (⟨true, []⟩, lc, comm)
  else
    let comm := { comm with mutex := mutex }
    if mutex = none then (⟨false, [(.xSemaphoreCreateMutex, false)]⟩, lc, comm)
    else
      (⟨true, [(.xSemaphoreCreateMutex, true)]⟩,
        { lc with
          lc := copter.linux_commander.linuxComm_init
            (Callback.over Copter.ctl (fun state ctl => { state with ctl := ctl }) lc_control)
            (Callback.over Copter.comm (fun state comm => { state with comm := comm }) lc_select) lc.lc },
        { comm with init := true })

/-- A call of an initialization with the results of the calls it makes. -/
inductive Call where
  | lc_init (rx tx : Option Buffer)
  | rc_init (timer : Option Timer) (setOverflowCallback : ℤ)
  | linuxComm_init (mutex : Option SemaphoreHandle)
  deriving DecidableEq

def step (vPortFree : RcUnit → RcUnit) (units : Units) : Call → Units
  | .lc_init rx tx => { units with lc := (lc_init rx tx units.lc).2 }
  | .rc_init timer setOverflowCallback =>
    { units with rc := (rc_init vPortFree timer setOverflowCallback units.rc).2 }
  | .linuxComm_init mutex =>
    let (_, lc, linuxComm) := linuxComm_init mutex units.lc units.linuxComm
    { units with lc := lc, linuxComm := linuxComm }

/-- The three modules as initializers over the same calls. -/
def lcInitializer (vPortFree : RcUnit → RcUnit) : Initializer Units Call Test where
  step := step vPortFree
  reply
    | units, .lc_init rx tx => some (lc_init rx tx units.lc).1
    | _, _ => none
  isInit units := units.lc.init
  required := [.buffer_init_rx, .buffer_init_tx]

def rcInitializer (vPortFree : RcUnit → RcUnit) : Initializer Units Call Test where
  step := step vPortFree
  reply
    | units, .rc_init timer setOverflowCallback =>
      some (rc_init vPortFree timer setOverflowCallback units.rc).1
    | _, _ => none
  isInit units := units.rc.init
  required := [.timer, .timer_setOverflowCallback]

def linuxCommInitializer (vPortFree : RcUnit → RcUnit) : Initializer Units Call Test where
  step := step vPortFree
  reply
    | units, .linuxComm_init mutex => some (linuxComm_init mutex units.lc units.linuxComm).1
    | _, _ => none
  isInit units := units.linuxComm.init
  required := [.xSemaphoreCreateMutex]

/-- All three modules keep their promise along a sequence of calls. -/
def RetrySafe (vPortFree : RcUnit → RcUnit) (calls : List Call) : Prop :=
  (lcInitializer vPortFree).RetrySafe units0 calls ∧ (rcInitializer vPortFree).RetrySafe units0 calls ∧
    (linuxCommInitializer vPortFree).RetrySafe units0 calls

/-- The first call with a timer gets its callback installed. -/
def FirstTimerAccepted (calls : List Call) : Prop :=
  ∀ before timer setOverflowCallback after, calls = before ++ .rc_init (some timer) setOverflowCallback :: after →
    (∀ timer setOverflowCallback, .rc_init (some timer) setOverflowCallback ∉ before) → 0 ≤ setOverflowCallback

/-- The failing call that leaves its unit marked. -/
def Slips : Call → Prop
  | .rc_init (some _) setOverflowCallback => setOverflowCallback < 0
  | _ => False

/-- An initialized unit is handed out without another test. -/
theorem lc_init_again {lc : LcUnit} (hinit : lc.init = true) (rx tx : Option Buffer) :
    lc_init rx tx lc = (⟨true, []⟩, lc) := by
  rw [lc_init, if_pos hinit]

theorem rc_init_again {rc : RcUnit} (hinit : rc.init = true) (vPortFree : RcUnit → RcUnit) (timer : Option Timer)
    (setOverflowCallback : ℤ) : rc_init vPortFree timer setOverflowCallback rc = (⟨true, []⟩, rc) := by
  rw [rc_init, if_pos hinit]

theorem linuxComm_init_again {comm : LinuxCommUnit} (hinit : comm.init = true) (mutex : Option SemaphoreHandle)
    (lc : LcUnit) : linuxComm_init mutex lc comm = (⟨true, []⟩, lc, comm) := by
  rw [linuxComm_init, if_pos hinit]

/-- What the first call does, and every one after a failure. -/
theorem lc_init_spec {lc : LcUnit} (hinit : lc.init = false) (rx tx : Option Buffer) :
    (lc_init rx tx lc).1.tested ≠ [] ∧
      ((lc_init rx tx lc).1.handle = true → (lc_init rx tx lc).1.Complete [.buffer_init_rx, .buffer_init_tx]) ∧
      (lc_init rx tx lc).2.init = (lc_init rx tx lc).1.handle := by
  cases rx <;> cases tx <;> simp [lc_init, hinit, Reply.Complete]

theorem linuxComm_init_spec {comm : LinuxCommUnit} (hinit : comm.init = false) (mutex : Option SemaphoreHandle)
    (lc : LcUnit) :
    (linuxComm_init mutex lc comm).1.tested ≠ [] ∧
      ((linuxComm_init mutex lc comm).1.handle = true →
        (linuxComm_init mutex lc comm).1.Complete [.xSemaphoreCreateMutex]) ∧
      (linuxComm_init mutex lc comm).2.2.init = (linuxComm_init mutex lc comm).1.handle := by
  cases mutex <;> simp [linuxComm_init, hinit, Reply.Complete]

/-- A call without a timer does nothing. -/
theorem rc_init_none {rc : RcUnit} (hinit : rc.init = false) (vPortFree : RcUnit → RcUnit)
    (setOverflowCallback : ℤ) :
    rc_init vPortFree none setOverflowCallback rc = (⟨false, [(.timer, false)]⟩, rc) := by
  simp [rc_init, hinit]

/-- A call with a timer marks the unit, whether or not the callback is installed. -/
theorem rc_init_some {rc : RcUnit} (hinit : rc.init = false) {vPortFree : RcUnit → RcUnit}
    (hfree : ∀ rc, (vPortFree rc).init = rc.init) (timer : Timer) (setOverflowCallback : ℤ) :
    (rc_init vPortFree (some timer) setOverflowCallback rc).1 =
        ⟨decide (0 ≤ setOverflowCallback),
          [(.timer, true), (.timer_setOverflowCallback, decide (0 ≤ setOverflowCallback))]⟩ ∧
      (rc_init vPortFree (some timer) setOverflowCallback rc).2.init = true := by
  by_cases hrefused : setOverflowCallback < 0
  · have hnot : ¬ 0 ≤ setOverflowCallback := not_le.mpr hrefused
    simp [rc_init, hinit, hrefused, hnot, hfree]
  · have hok : 0 ≤ setOverflowCallback := not_lt.mp hrefused
    simp [rc_init, hinit, hrefused, hok]

/-- The registration of the handlers leaves the flag of the client alone. -/
theorem linuxComm_init_lc (mutex : Option SemaphoreHandle) (lc : LcUnit) (comm : LinuxCommUnit) :
    (linuxComm_init mutex lc comm).2.1.init = lc.init := by
  unfold linuxComm_init
  dsimp only
  split
  · rfl
  · split <;> rfl

theorem lcInitializer_lawful (vPortFree : RcUnit → RcUnit) :
    (lcInitializer vPortFree).Lawful fun _ => False where
  other := by
    rintro units (⟨rx, tx⟩ | ⟨timer, setOverflowCallback⟩ | mutex) hreply
    · contradiction
    · rfl
    · exact linuxComm_init_lc mutex units.lc units.linuxComm
  again := by
    rintro units (⟨rx, tx⟩ | _ | _) reply ⟨⟩ hinit
    have hagain := lc_init_again hinit rx tx
    exact ⟨congrArg (Reply.handle ∘ Prod.fst) hagain, (congrArg (LcUnit.init ∘ Prod.snd) hagain).trans hinit⟩
  attempt := by
    rintro units (⟨rx, tx⟩ | _ | _) reply ⟨⟩ hinit
    exact (lc_init_spec hinit rx tx).1
  served := by
    rintro units (⟨rx, tx⟩ | _ | _) reply ⟨⟩ hinit _
    exact (lc_init_spec hinit rx tx).2
  slip := by
    rintro _ _ _ _ _ ⟨⟩

theorem linuxCommInitializer_lawful (vPortFree : RcUnit → RcUnit) :
    (linuxCommInitializer vPortFree).Lawful fun _ => False where
  other := by
    rintro units (⟨rx, tx⟩ | ⟨timer, setOverflowCallback⟩ | mutex) hreply
    · rfl
    · rfl
    · contradiction
  again := by
    rintro units (_ | _ | mutex) reply ⟨⟩ hinit
    have hagain := linuxComm_init_again hinit mutex units.lc
    exact ⟨congrArg (Reply.handle ∘ Prod.fst) hagain,
      (congrArg (LinuxCommUnit.init ∘ Prod.snd ∘ Prod.snd) hagain).trans hinit⟩
  attempt := by
    rintro units (_ | _ | mutex) reply ⟨⟩ hinit
    exact (linuxComm_init_spec hinit mutex units.lc).1
  served := by
    rintro units (_ | _ | mutex) reply ⟨⟩ hinit _
    exact (linuxComm_init_spec hinit mutex units.lc).2
  slip := by
    rintro _ _ _ _ _ ⟨⟩

theorem rcInitializer_lawful {vPortFree : RcUnit → RcUnit} (hfree : ∀ rc, (vPortFree rc).init = rc.init) :
    (rcInitializer vPortFree).Lawful Slips where
  other := by
    rintro units (⟨rx, tx⟩ | ⟨timer, setOverflowCallback⟩ | mutex) hreply
    · rfl
    · contradiction
    · rfl
  again := by
    rintro units (_ | ⟨timer, setOverflowCallback⟩ | _) reply ⟨⟩ hinit
    have hagain := rc_init_again hinit vPortFree timer setOverflowCallback
    exact ⟨congrArg (Reply.handle ∘ Prod.fst) hagain, (congrArg (RcUnit.init ∘ Prod.snd) hagain).trans hinit⟩
  attempt := by
    rintro units (_ | ⟨_ | timer, setOverflowCallback⟩ | _) reply ⟨⟩ hinit
    · rw [rc_init_none hinit]
      simp
    · rw [(rc_init_some hinit hfree timer setOverflowCallback).1]
      simp
  served := by
    rintro units (_ | ⟨_ | timer, setOverflowCallback⟩ | _) reply ⟨⟩ hinit hserves
    · have hnone := rc_init_none hinit vPortFree setOverflowCallback
      rw [hnone]
      exact ⟨fun hnull => absurd hnull (by simp), (congrArg (RcUnit.init ∘ Prod.snd) hnone).trans hinit⟩
    · obtain ⟨hreply, hmarked⟩ := rc_init_some hinit hfree timer setOverflowCallback
      have hok : decide (0 ≤ setOverflowCallback) = true := decide_eq_true (not_lt.mp hserves)
      rw [hreply, hok]
      exact ⟨fun _ => by simp [Reply.Complete, rcInitializer], hmarked⟩
  slip := by
    rintro units (_ | ⟨_ | timer, setOverflowCallback⟩ | _) reply ⟨⟩ hinit hslip
    · exact hslip.elim
    · obtain ⟨hreply, hmarked⟩ := rc_init_some hinit hfree timer setOverflowCallback
      rw [hreply]
      exact ⟨decide_eq_false (not_le.mpr hslip), hmarked⟩

/-- Only a call with a timer marks the receiver, and nothing clears the mark. -/
theorem step_rc_init {vPortFree : RcUnit → RcUnit} (hfree : ∀ rc, (vPortFree rc).init = rc.init) (units : Units)
    (call : Call) :
    (step vPortFree units call).rc.init = true ↔
      units.rc.init = true ∨ ∃ timer setOverflowCallback, call = .rc_init (some timer) setOverflowCallback := by
  cases call with
  | lc_init rx tx => simp [step]
  | linuxComm_init mutex => simp [step]
  | rc_init timer setOverflowCallback =>
    cases hinit : units.rc.init with
    | true => simp [step, rc_init_again hinit, hinit]
    | false =>
      cases timer with
      | none => simp [step, rc_init_none hinit, hinit]
      | some timer => simp [step, (rc_init_some hinit hfree timer setOverflowCallback).2]

theorem rc_init_iff {vPortFree : RcUnit → RcUnit} (hfree : ∀ rc, (vPortFree rc).init = rc.init)
    (calls : List Call) :
    (run (step vPortFree) units0 calls).rc.init = true ↔
      ∃ timer setOverflowCallback, .rc_init (some timer) setOverflowCallback ∈ calls := by
  induction calls using List.reverseRecOn with
  | nil => simp [units0]
  | append_singleton calls call ih =>
    rw [run_concat, step_rc_init hfree, ih]
    constructor
    · rintro (⟨timer, setOverflowCallback, hearlier⟩ | ⟨timer, setOverflowCallback, rfl⟩)
      · exact ⟨timer, setOverflowCallback, by simp [hearlier]⟩
      · exact ⟨timer, setOverflowCallback, by simp⟩
    · rintro ⟨timer, setOverflowCallback, hmem⟩
      obtain hearlier | hlast := List.mem_append.mp hmem
      · exact .inl ⟨timer, setOverflowCallback, hearlier⟩
      · exact .inr ⟨timer, setOverflowCallback, (List.mem_singleton.mp hlast).symm⟩

/-- No call slips before the receiver is marked exactly when its first call with a
    timer is accepted. -/
theorem noSlip_iff {vPortFree : RcUnit → RcUnit} (hfree : ∀ rc, (vPortFree rc).init = rc.init)
    (calls : List Call) :
    (∀ before call after, calls = before ++ call :: after →
        (rcInitializer vPortFree).NoSlip Slips units0 before call) ↔
      FirstTimerAccepted calls := by
  have hmarked := rc_init_iff hfree
  constructor
  · intro hnoSlip before timer setOverflowCallback after hsplit hfirst
    have hunmarked : (run (step vPortFree) units0 before).rc.init = false := by
      rw [Bool.eq_false_iff, ne_eq, hmarked]
      rintro ⟨earlier, result, hmem⟩
      exact hfirst earlier result hmem
    exact not_lt.mp (hnoSlip before _ after hsplit hunmarked rfl)
  · intro haccepted before call after hsplit hunmarked _ hslip
    cases call with
    | lc_init rx tx => exact hslip
    | linuxComm_init mutex => exact hslip
    | rc_init timer setOverflowCallback =>
      cases timer with
      | none => exact hslip
      | some timer =>
        have hfirst : ∀ timer setOverflowCallback, .rc_init (some timer) setOverflowCallback ∉ before := by
          intro earlier result hmem
          have hearly := (hmarked before).mpr ⟨earlier, result, hmem⟩
          exact absurd (hearly.symm.trans hunmarked) (by simp)
        exact absurd hslip (not_lt.mpr (haccepted before timer setOverflowCallback after hsplit hfirst))

/-- Once the client and the commander are initialized and the PID message is
    registered, the table of the handlers is that of the system. -/
theorem registered_eq_lc {lc : LcUnit} (hlc : lc.init = false) {comm : LinuxCommUnit} (hcomm : comm.init = false)
    (rx tx : Buffer) (mutex : SemaphoreHandle) :
    pidCtrlInit
        (Callback.over (fun state : Copter => (state.controller, state.comm))
          (fun state part => { state with controller := part.1, comm := part.2 }) pidCrtlCallback)
        (linuxComm_init (some mutex) (lc_init (some rx) (some tx) lc).2 comm).2.1.lc = copter.lc := by
  simp only [lc_init, linuxComm_init, hlc, hcomm, Bool.false_eq_true, if_false, reduceCtorEq]
  rfl

/-- Without a call that slips every sequence of calls is safe to retry. -/
theorem retrySafe_of_lawful {initializer : Initializer Units Call Test}
    (hlawful : initializer.Lawful fun _ => False) (hstart : initializer.isInit units0 = false)
    (calls : List Call) : initializer.RetrySafe units0 calls :=
  (Initializer.retrySafe_iff_noSlip hlawful hstart calls).mpr fun _ _ _ _ _ _ => id

/-- The client and the commander are safe to retry along every sequence of calls;
    with the receiver all three are exactly if the first of its calls with a timer gets
    its callback installed. -/
theorem retrySafe_iff {vPortFree : RcUnit → RcUnit} (hfree : ∀ rc, (vPortFree rc).init = rc.init)
    (calls : List Call) :
    (lcInitializer vPortFree).RetrySafe units0 calls ∧ (linuxCommInitializer vPortFree).RetrySafe units0 calls ∧
      (RetrySafe vPortFree calls ↔ FirstTimerAccepted calls) := by
  have hlc := retrySafe_of_lawful (lcInitializer_lawful vPortFree) rfl calls
  have hlinuxComm := retrySafe_of_lawful (linuxCommInitializer_lawful vPortFree) rfl calls
  refine ⟨hlc, hlinuxComm, ?_⟩
  rw [← noSlip_iff hfree, ← Initializer.retrySafe_iff_noSlip (rcInitializer_lawful hfree) rfl]
  exact ⟨fun hsafe => hsafe.2.1, fun hrc => ⟨hlc, hrc, hlinuxComm⟩⟩

/-- The initialization of a board whose second buffer is missing at first. -/
theorem retrySafe_iff_second_buffer :
    (lcInitializer id).RetrySafe units0 [.lc_init (some 0) none, .rc_init (some 0) 0, .lc_init (some 0) (some 1)] ∧
      (linuxCommInitializer id).RetrySafe units0
        [.lc_init (some 0) none, .rc_init (some 0) 0, .lc_init (some 0) (some 1)] ∧
      (RetrySafe id [.lc_init (some 0) none, .rc_init (some 0) 0, .lc_init (some 0) (some 1)] ↔
        FirstTimerAccepted [.lc_init (some 0) none, .rc_init (some 0) 0, .lc_init (some 0) (some 1)]) :=
  retrySafe_iff (fun _ => rfl) _

/-- After a refused callback the receiver is handed out without one. -/
theorem not_retrySafe_refused : ¬ RetrySafe id [.rc_init (some 0) (-1), .rc_init (some 0) 0] := by
  rintro ⟨_, hrc, _⟩
  obtain ⟨_, hnull⟩ := hrc [] _ _ rfl _ rfl
  exact absurd (hnull (by decide)).1 (by decide)

end copter.initialization
