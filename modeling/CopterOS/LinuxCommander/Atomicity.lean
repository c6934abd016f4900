import CopterOS.Lib.Mutex
import CopterOS.Lib.Stores
import CopterOS.LinuxCommander
import Mathlib.Data.List.Induction

open mutex stores transition number copter.commander copter.linux_client

namespace copter.linux_commander

/-- The tasks that share the set-point. -/
inductive Task where
  | lcTask
  | stabilizerTask
  | emergencyTask
  deriving DecidableEq

/-- The bytes of a `struct autocopt_control`. -/
abbrev Bytes := Fin 16 → UInt8

/-- The part of a message that `memcpy` takes. -/
def payload (data : Data) : Bytes := fun i => data (i.castLE (by decide))

def AutocoptControl.ofBytes (bytes : Bytes) : AutocoptControl where
  roll := Flt.ofBytes (bytes 0) (bytes 1) (bytes 2) (bytes 3)
  pitch := Flt.ofBytes (bytes 4) (bytes 5) (bytes 6) (bytes 7)
  yaw := Flt.ofBytes (bytes 8) (bytes 9) (bytes 10) (bytes 11)
  thrust := Flt.ofBytes (bytes 12) (bytes 13) (bytes 14) (bytes 15)

/-- What the mutex guards. -/
structure Shared where
  ctl : Bytes
  oldctl : Bytes

/-- The bytes a task has read, and the results of its calls. -/
structure Registers where
  bytes : Bytes
  rpys : List (RPY Flt)
  thrusts : List UInt16

/-- A call that takes the mutex; a refused message does not. -/
inductive Call where
  | lc_control (msg : LcMsg) (haccepted : ¬ (AutocoptControl.ofData msg.data).Refused)
  | linuxComm_GetRPY
  | linuxComm_GetThrust

def saveByte (i : Fin 16) : Access Shared Registers := fun (shared, own) =>
  ({ shared with oldctl := Function.update shared.oldctl i (shared.ctl i) }, own)

def storeByte (bytes : Bytes) (i : Fin 16) : Access Shared Registers := fun (shared, own) =>
  ({ shared with ctl := Function.update shared.ctl i (bytes i) }, own)

def loadByte (i : Fin 16) : Access Shared Registers := fun (shared, own) =>
  (shared, { own with bytes := Function.update own.bytes i (shared.ctl i) })

/-- The rest of the call, on what the task has read. -/
def computeRPY : Access Shared Registers := fun (shared, own) =>
  (shared, { own with rpys := own.rpys ++ [linuxComm_GetRPY (AutocoptControl.ofBytes own.bytes)] })

def computeThrust (undefined : Flt → UInt16) : Access Shared Registers := fun (shared, own) =>
  (shared, { own with
    thrusts := own.thrusts ++ [linuxComm_GetThrust undefined (AutocoptControl.ofBytes own.bytes)] })

def rpyBytes : List (Fin 16) := (List.finRange 16).filter (·.val < 12)

def thrustBytes : List (Fin 16) := (List.finRange 16).filter (12 ≤ ·.val)

/-- The calls byte by byte. -/
def body (undefined : Flt → UInt16) : Call → List (Access Shared Registers)
  | .lc_control msg _ => (List.finRange 16).map saveByte ++ (List.finRange 16).map (storeByte (payload msg.data))
  | .linuxComm_GetRPY => rpyBytes.map loadByte ++ [computeRPY]
  | .linuxComm_GetThrust => thrustBytes.map loadByte ++ [computeThrust undefined]

/-- What can be seen of the memory: the stored set-point and the results so far. -/
structure View where
  ctl : AutocoptControl
  rpys : Task → List (RPY Flt)
  thrusts : Task → List UInt16

/-- The calls in one piece, by the functions of the commander. -/
def View.step (undefined : Flt → UInt16) (view : View) : Task × Call → View
  | (_, .lc_control msg _) => { view with ctl := (lc_control (fun _ => 0) msg view.ctl).1 }
  | (task, .linuxComm_GetRPY) =>
    { view with rpys := Function.update view.rpys task (view.rpys task ++ [linuxComm_GetRPY view.ctl]) }
  | (task, .linuxComm_GetThrust) =>
    { view with
      thrusts := Function.update view.thrusts task (view.thrusts task ++ [linuxComm_GetThrust undefined view.ctl]) }

def view (memory : Memory Task Shared Registers) : View where
  ctl := AutocoptControl.ofBytes memory.shared.ctl
  rpys task := (memory.own task).rpys
  thrusts task := (memory.own task).thrusts

theorem foldl_saveByte (is : List (Fin 16)) (shared : Shared) (own : Registers) :
    ∃ oldctl, (is.map saveByte).foldl (fun memory access => access memory) (shared, own) =
      ({ shared with oldctl := oldctl }, own) := by
  induction is generalizing shared with
  | nil => exact ⟨shared.oldctl, rfl⟩
  | cons i is ih => exact ih { shared with oldctl := Function.update shared.oldctl i (shared.ctl i) }

theorem foldl_storeByte (bytes : Bytes) (is : List (Fin 16)) (shared : Shared) (own : Registers) :
    (is.map (storeByte bytes)).foldl (fun memory access => access memory) (shared, own) =
      ({ shared with ctl := storeAll shared.ctl (is.map fun i => (i, bytes i)) }, own) := by
  induction is generalizing shared with
  | nil => rfl
  | cons i is ih => exact ih { shared with ctl := Function.update shared.ctl i (bytes i) }

theorem foldl_loadByte (is : List (Fin 16)) (shared : Shared) (own : Registers) :
    (is.map loadByte).foldl (fun memory access => access memory) (shared, own) =
      (shared, { own with bytes := storeAll own.bytes (is.map fun i => (i, shared.ctl i)) }) := by
  induction is generalizing own with
  | nil => rfl
  | cons i is ih => exact ih { own with bytes := Function.update own.bytes i (shared.ctl i) }

/-- The angles depend on the first twelve bytes only. -/
theorem linuxComm_GetRPY_load (ctl bytes : Bytes) :
    linuxComm_GetRPY (AutocoptControl.ofBytes (storeAll bytes (rpyBytes.map fun i => (i, ctl i)))) =
      linuxComm_GetRPY (AutocoptControl.ofBytes ctl) := by
  have hloaded : ∀ i ∈ rpyBytes, storeAll bytes (rpyBytes.map fun i => (i, ctl i)) i = ctl i :=
    fun i hi => storeAll_map_of_mem (by decide) ctl hi bytes
  unfold linuxComm_GetRPY AutocoptControl.ofBytes
  dsimp only
  rw [hloaded 0 (by decide), hloaded 1 (by decide), hloaded 2 (by decide), hloaded 3 (by decide),
    hloaded 4 (by decide), hloaded 5 (by decide), hloaded 6 (by decide), hloaded 7 (by decide),
    hloaded 8 (by decide), hloaded 9 (by decide), hloaded 10 (by decide), hloaded 11 (by decide)]

/-- The thrust depends on the last four bytes only. -/
theorem linuxComm_GetThrust_load (undefined : Flt → UInt16) (ctl bytes : Bytes) :
    linuxComm_GetThrust undefined (AutocoptControl.ofBytes (storeAll bytes (thrustBytes.map fun i => (i, ctl i)))) =
      linuxComm_GetThrust undefined (AutocoptControl.ofBytes ctl) := by
  have hloaded : ∀ i ∈ thrustBytes, storeAll bytes (thrustBytes.map fun i => (i, ctl i)) i = ctl i :=
    fun i hi => storeAll_map_of_mem (by decide) ctl hi bytes
  unfold linuxComm_GetThrust thrustValue AutocoptControl.ofBytes
  dsimp only
  rw [hloaded 12 (by decide), hloaded 13 (by decide), hloaded 14 (by decide), hloaded 15 (by decide)]

theorem ofBytes_payload (data : Data) : AutocoptControl.ofBytes (payload data) = AutocoptControl.ofData data := rfl

/-- A whole section does what the function does in one piece. -/
theorem view_step (undefined : Flt → UInt16) (memory : Memory Task Shared Registers) (entry : Task × Call) :
    view (memory.step (body undefined) entry) = (view memory).step undefined entry := by
  obtain ⟨task, call⟩ := entry
  cases call with
  | lc_control msg haccepted =>
    obtain ⟨oldctl, hsave⟩ := foldl_saveByte (List.finRange 16) memory.shared (memory.own task)
    have hperform : memory.step (body undefined) (task, .lc_control msg haccepted) =
        { memory with
          shared := { ctl := storeAll memory.shared.ctl ((List.finRange 16).map fun i => (i, payload msg.data i))
                      oldctl := oldctl } } := by
      unfold Memory.step Memory.perform body
      rw [List.foldl_append, hsave, foldl_storeByte]
      dsimp only
      rw [Function.update_eq_self]
    have hstored : storeAll memory.shared.ctl ((List.finRange 16).map fun i => (i, payload msg.data i)) =
        payload msg.data :=
      funext fun i => storeAll_map_of_mem (List.nodup_finRange 16) _ (List.mem_finRange i) _
    have hcontrol : (lc_control (fun _ => 0) msg (view memory).ctl).1 = AutocoptControl.ofData msg.data := by
      unfold lc_control
      exact congrArg Prod.fst (if_neg haccepted)
    rw [hperform, hstored]
    unfold View.step
    dsimp only
    rw [hcontrol, ← ofBytes_payload]
    rfl
  | linuxComm_GetRPY =>
    unfold Memory.step Memory.perform body
    dsimp only
    rw [List.foldl_append, foldl_loadByte]
    unfold view View.step
    dsimp only [List.foldl_cons, List.foldl_nil, computeRPY]
    rw [linuxComm_GetRPY_load]
    congr 1 <;> funext other <;> by_cases hother : other = task <;> simp [hother]
  | linuxComm_GetThrust =>
    unfold Memory.step Memory.perform body
    dsimp only
    rw [List.foldl_append, foldl_loadByte]
    unfold view View.step
    dsimp only [List.foldl_cons, List.foldl_nil, computeThrust]
    rw [linuxComm_GetThrust_load]
    congr 1 <;> funext other <;> by_cases hother : other = task <;> simp [hother]

/-- The static initial value, with what the tasks find in their registers. -/
def memory0 (registers : Task → Bytes) : Memory Task Shared Registers where
  shared :=
    { ctl := fun i => if i = 14 then 0x80 else if i = 15 then 0xbf else 0
      oldctl := fun i => if i = 14 then 0x80 else if i = 15 then 0xbf else 0 }
  own task := { bytes := registers task, rpys := [], thrusts := [] }

def view0 : View where
  ctl := ctl0
  rpys _ := []
  thrusts _ := []

theorem view_memory0 (registers : Task → Bytes) : view (memory0 registers) = view0 := by
  have hctl : AutocoptControl.ofBytes (fun i => if i = 14 then 0x80 else if i = 15 then 0xbf else 0) = ctl0 := by
    decide +kernel
  unfold view view0 memory0
  dsimp only
  rw [hctl]

/-- The set-points of the accepted messages. -/
def stored (calls : List (Task × Call)) : List AutocoptControl :=
  calls.filterMap fun
    | (_, .lc_control msg _) => some (AutocoptControl.ofData msg.data)
    | _ => none

theorem stored_concat (calls : List (Task × Call)) (entry : Task × Call) :
    stored (calls ++ [entry]) = stored calls ++ stored [entry] := List.filterMap_append

/-- Everything comes from set-points that have been stored as a whole. -/
structure View.Whole (ctls : List AutocoptControl) (undefined : Flt → UInt16) (view : View) : Prop where
  ctl : view.ctl ∈ ctls
  rpys : ∀ task, ∀ rpy ∈ view.rpys task, ∃ ctl ∈ ctls, rpy = linuxComm_GetRPY ctl
  thrusts : ∀ task, ∀ thrust ∈ view.thrusts task, ∃ ctl ∈ ctls, thrust = linuxComm_GetThrust undefined ctl

theorem View.Whole.mono {ctls more : List AutocoptControl} {undefined : Flt → UInt16} {view : View}
    (hwhole : view.Whole ctls undefined) : view.Whole (ctls ++ more) undefined where
  ctl := List.mem_append_left _ hwhole.ctl
  rpys task rpy hrpy :=
    have ⟨ctl, hctl, heq⟩ := hwhole.rpys task rpy hrpy
    ⟨ctl, List.mem_append_left _ hctl, heq⟩
  thrusts task thrust hthrust :=
    have ⟨ctl, hctl, heq⟩ := hwhole.thrusts task thrust hthrust
    ⟨ctl, List.mem_append_left _ hctl, heq⟩

theorem mem_update_concat {A : Type} {results : Task → List A} {task other : Task} {result new : A}
    (hmem : result ∈ Function.update results task (results task ++ [new]) other) :
    result ∈ results other ∨ result = new := by
  by_cases hother : other = task
  · subst hother
    rw [Function.update_self, List.mem_append, List.mem_singleton] at hmem
    exact hmem
  · rw [Function.update_of_ne hother] at hmem
    exact .inl hmem

theorem View.Whole.step {ctls : List AutocoptControl} {undefined : Flt → UInt16} {view : View}
    (hwhole : view.Whole ctls undefined) (entry : Task × Call) :
    (view.step undefined entry).Whole (ctls ++ stored [entry]) undefined := by
  obtain ⟨task, call⟩ := entry
  have hmore : view.Whole (ctls ++ stored [(task, call)]) undefined := hwhole.mono
  cases call with
  | lc_control msg haccepted =>
    have hcontrol : (lc_control (fun _ => 0) msg view.ctl).1 = AutocoptControl.ofData msg.data := by
      unfold lc_control
      exact congrArg Prod.fst (if_neg haccepted)
    refine ⟨?_, hmore.rpys, hmore.thrusts⟩
    change (lc_control (fun _ => 0) msg view.ctl).1 ∈ _
    rw [hcontrol]
    exact List.mem_append_right _ (List.mem_singleton.mpr rfl)
  | linuxComm_GetRPY =>
    refine ⟨hmore.ctl, fun other rpy hrpy => ?_, hmore.thrusts⟩
    obtain hold | hnew := mem_update_concat hrpy
    · exact hmore.rpys other rpy hold
    · exact ⟨view.ctl, hmore.ctl, hnew⟩
  | linuxComm_GetThrust =>
    refine ⟨hmore.ctl, hmore.rpys, fun other thrust hthrust => ?_⟩
    obtain hold | hnew := mem_update_concat hthrust
    · exact hmore.thrusts other thrust hold
    · exact ⟨view.ctl, hmore.ctl, hnew⟩

theorem run_whole (undefined : Flt → UInt16) (calls : List (Task × Call)) :
    (run (View.step undefined) view0 calls).Whole (ctl0 :: stored calls) undefined := by
  induction calls using List.reverseRecOn with
  | nil => exact ⟨List.mem_singleton.mpr rfl, fun _ _ => nofun, fun _ _ => nofun⟩
  | append_singleton calls entry ih =>
    rw [run_concat, stored_concat, ← List.cons_append]
    exact ih.step entry

theorem body_length_le (undefined : Flt → UInt16) (call : Call) : (body undefined call).length ≤ 32 := by
  cases call with
  | lc_control msg haccepted => simp [body]
  | linuxComm_GetRPY => exact (by decide : (rpyBytes.map loadByte ++ [computeRPY]).length ≤ 32)
  | linuxComm_GetThrust =>
    have hlength : (thrustBytes.map loadByte).length ≤ 31 := by decide
    unfold body
    rw [List.length_append, List.length_singleton]
    omega

theorem run_exclusive (undefined : Flt → UInt16) (registers : Task → Bytes) (steps : List (Step Task Call)) :
    (run (Machine.step (body undefined)) (.start (memory0 registers)) steps).Exclusive (body undefined) :=
  run_invariant (fun _ step hexclusive => hexclusive.step step) (exclusive_start (body undefined) _) steps

/-- No set-point is torn. Whatever order the tasks make their accesses in, byte by byte,
    a task outside its section has the results that the calls give in one piece, in the
    order in which they took the mutex; each of them belongs to one whole message. There
    is no deadlock: a task that waits gets inside with its next step when the mutex is
    free, and the task inside gives it back with its 33rd step at the latest, whatever
    the others do in between. -/
theorem setpoint_atomic (undefined : Flt → UInt16) (registers : Task → Bytes) (steps : List (Step Task Call)) :
    let start : Machine Task Call Shared Registers := .start (memory0 registers)
    let after := run (Machine.step (body undefined)) start steps
    let calls := projected (Machine.step (body undefined)) Machine.entered start steps
    let atomic := run (View.step undefined) view0 calls
    (after.holder = none → AutocoptControl.ofBytes after.shared.ctl = atomic.ctl) ∧
      (∀ task, after.holder ≠ some task →
        (after.own task).rpys = atomic.rpys task ∧ (after.own task).thrusts = atomic.thrusts task ∧
          (∀ rpy ∈ (after.own task).rpys, ∃ ctl ∈ ctl0 :: stored calls, rpy = linuxComm_GetRPY ctl) ∧
          ∀ thrust ∈ (after.own task).thrusts, ∃ ctl ∈ ctl0 :: stored calls,
            thrust = linuxComm_GetThrust undefined ctl) ∧
      (∀ task call, after.place task = .waiting call → after.holder = none →
        (after.step (body undefined) (.go task)).place task = .inside (body undefined call)) ∧
      ∀ task, after.holder = some task → ∀ more : List (Step Task Call), 33 ≤ more.countP (Step.isGo task) →
        ∃ before, before <+: more ∧ (run (Machine.step (body undefined)) after before).holder = none := by
  intro start after calls atomic
  have hexclusive : after.Exclusive (body undefined) := run_exclusive undefined registers steps
  have hatomic : view after.finish = atomic := by
    have hstep : ∀ (machine : Machine Task Call Shared Registers) (step : Step Task Call),
        machine.Exclusive (body undefined) → view (machine.step (body undefined) step).finish =
          (machine.entered step).elim (view machine.finish) ((view machine.finish).step undefined) := by
      intro machine step hexclusive
      rw [hexclusive.finish_step]
      cases machine.entered step with
      | none => rfl
      | some entry => exact view_step undefined _ entry
    have hrun := @run_projected_of_invariant _ _ _ _ (Machine.step (body undefined)) Machine.entered
      (Machine.Exclusive (body undefined)) (View.step undefined) (fun machine => view machine.finish)
      (fun _ step hexclusive => hexclusive.step step) hstep start (exclusive_start (body undefined) _) steps
    have hstart : view start.finish = view0 := view_memory0 registers
    rwa [hstart] at hrun
  have hwhole := run_whole undefined calls
  refine ⟨?_, ?_, ?_, ?_⟩
  · intro hfree
    rw [← hatomic, after.finish_of_free hfree]
    rfl
  · intro task hfree
    have hrpys : (after.own task).rpys = atomic.rpys task := by
      rw [← hatomic, ← hexclusive.finish_own hfree]
      rfl
    have hthrusts : (after.own task).thrusts = atomic.thrusts task := by
      rw [← hatomic, ← hexclusive.finish_own hfree]
      rfl
    refine ⟨hrpys, hthrusts, ?_, ?_⟩
    · rw [hrpys]
      exact hwhole.rpys task
    · rw [hthrusts]
      exact hwhole.thrusts task
  · exact fun task call hwaiting hfree => after.step_go_waiting hwaiting hfree
  · intro task hholder more hmore
    obtain ⟨call, rest, hinside, hsuffix⟩ := hexclusive.inside hholder
    have hlength := hsuffix.length_le.trans (body_length_le undefined call)
    exact exists_free hinside (by omega)

end copter.linux_commander
