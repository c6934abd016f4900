import Mathlib.Algebra.GroupWithZero.Nat
import Mathlib.Logic.Function.Basic

namespace copter.linux_client

abbrev LC_MSG_SIZE : ℕ := 31
def LC_TYPE_ACT : UInt8 := 0x0
def LC_TYPE_FAILT : UInt8 := 0x1
def LC_TYPE_PID : UInt8 := 0x2
def LC_TYPE_SELECT : UInt8 := 0x3
def LC_TYPE_CONTROL : UInt8 := 0x4
def LC_TYPE_EMERGENCY : UInt8 := 0x5
abbrev LC_COUNT : ℕ := 6

instance : NeZero LC_MSG_SIZE := ⟨by decide⟩

instance : NeZero LC_COUNT := ⟨by decide⟩

/-- The 31 bytes after the type. -/
abbrev Data := Fin LC_MSG_SIZE → UInt8

structure LcMsg where
  type : UInt8
  data : Data

/-- What a handler does to the state it is registered over, and the messages it
    sends. A message of `lc_sendFailt` carries the bytes found on the stack. -/
abbrev Callback (S : Type) := Data → LcMsg → S → S × List LcMsg

structure Lc (S : Type) where
  callbacks : Fin LC_COUNT → Option (Callback S)

def lc_sendAct : List LcMsg := [{ type := LC_TYPE_ACT, data := fun _ => 0 }]

def lc_sendFailt (stack : Data) : List LcMsg := [{ type := LC_TYPE_FAILT, data := stack }]

/-- The message is sent back under another type. -/
def lc_ping {S : Type} : Callback S := fun _ msg state => (state, [{ msg with type := LC_TYPE_ACT }])

def lc_emergency {S : Type} (emergency_landing : S → S) : Callback S :=
  fun _ _ state => (emergency_landing state, lc_sendAct)

def lc_registerCallback {S : Type} (type : Fin LC_COUNT) (callback : Callback S) (lc : Lc S) : Lc S :=
  { lc with callbacks := Function.update lc.callbacks type (some callback) }

/-- The cleared table with the handlers that `lc_init` registers itself. -/
def lc_init {S : Type} (emergency_landing : S → S) : Lc S :=
  lc_registerCallback 5 (lc_emergency emergency_landing)
    (lc_registerCallback 1 lc_ping (lc_registerCallback 0 lc_ping { callbacks := fun _ => none }))

/-- The treatment of one received message. -/
def lcTask {S : Type} (lc : Lc S) (stack : Data) (msg : LcMsg) (state : S) : S × List LcMsg :=
  if htype : msg.type.toNat < LC_COUNT then
    match lc.callbacks ⟨msg.type.toNat, htype⟩ with
    | some callback => callback stack msg state
    | none => (state, lc_sendFailt stack)
  else (state, lc_sendFailt stack)

/-- A handler over one part of a larger state. -/
def Callback.over {S P : Type} (get : S → P) (set : S → P → S) (callback : Callback P) : Callback S :=
  fun stack msg state =>
    let (part, replies) := callback stack msg (get state)
    (set state part, replies)

/-- A message of a registered type is answered by its handler. -/
theorem lcTask_of_callback {S : Type} {lc : Lc S} {msg : LcMsg} (type : Fin LC_COUNT) {callback : Callback S}
    (htype : msg.type.toNat = type) (hcallback : lc.callbacks type = some callback) (stack : Data)
    (state : S) : lcTask lc stack msg state = callback stack msg state := by
  have hless : msg.type.toNat < LC_COUNT := by
    rw [htype]
    exact type.isLt
  have hindex : (⟨msg.type.toNat, hless⟩ : Fin LC_COUNT) = type := Fin.ext htype
  unfold lcTask
  rw [dif_pos hless, hindex, hcallback]

/-- A message of an unknown type is refused and changes nothing. -/
theorem lcTask_of_unknown {S : Type} {msg : LcMsg} (htype : ¬ msg.type.toNat < LC_COUNT) (lc : Lc S)
    (stack : Data) (state : S) : lcTask lc stack msg state = (state, lc_sendFailt stack) := by
  unfold lcTask
  rw [dif_neg htype]

end copter.linux_client
