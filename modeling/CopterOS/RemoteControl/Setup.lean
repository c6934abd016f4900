import CopterOS.Lib.Run
import CopterOS.Lib.History
import CopterOS.Lib.Slots
import CopterOS.RemoteControl

open transition slots

namespace copter.remote_control

/-- The table with the slots' pointers `rc` back to it. -/
structure Table where
  rc : Rc
  pointer : Fin RC_MAX_CHANNELS → Bool

def table0 : Table where
  rc := rc0
  pointer _ := false

/-- One call of `rc_setup` with the results of the calls it makes and the value
    its uninitialised local happens to have. -/
structure Setup where
  capture : Capture
  ret : ℤ
  setCallback : ℤ
  setPeriod : ℤ
  deriving DecidableEq

def Table.ret (table : Table) (call : Setup) : ℤ :=
  (rc_setup call.ret call.setCallback call.setPeriod table.rc call.capture).1

/-- A free slot gets its pointer before anything can fail. -/
def Table.setup (table : Table) (call : Setup) : Table where
  rc := (rc_setup call.ret call.setCallback call.setPeriod table.rc call.capture).2
  pointer :=
    match table.rc.freeSlot with
    | none => table.pointer
    | some index => Function.update table.pointer index true

/-- The call finds no free slot, or one of the calls it makes fails. -/
def Table.Fails (table : Table) (call : Setup) : Prop :=
  table.rc.freeSlot = none ∨ call.setCallback < 0 ∨ call.setPeriod < 0

/-- The slots are as before, those without a use for the pointers apart when
    these are not counted. -/
def Table.Same (pointers : Bool) (before after : Table) : Prop :=
  after.rc = before.rc ∧ (pointers = true → after.pointer = before.pointer)

def bound (capture : Capture) : RcChannel where
  capture := some capture
  raw := 0
  value := 0
  retry := false
  corret := false

/-- The calls that return no negative value. -/
def setups (calls : List Setup) : ℕ :=
  (trace Table.setup table0 calls).countP fun entry => decide (0 ≤ entry.1.ret entry.2)

/-- What set-up promises of one call after the given ones: the `k`-th successful
    call returns `k` and binds its capture unit to the free slot `k`, and a failing
    one returns a negative value and leaves the slots as they were. -/
def SetsUp (pointers : Bool) (before : List Setup) (call : Setup) : Prop :=
  let table := run Table.setup table0 before
  (0 ≤ table.ret call → ∃ slot : Fin RC_MAX_CHANNELS, slot.val = setups before ∧
    table.ret call = slot.val ∧ (table.rc.channel slot).capture = none ∧
    (table.setup call).rc.channel = Function.update table.rc.channel slot (bound call.capture)) ∧
  (table.Fails call → table.ret call < 0 ∧ table.Same pointers (table.setup call))

def Transactional (pointers : Bool) (calls : List Setup) : Prop :=
  ∀ before call after, calls = before ++ call :: after → SetsUp pointers before call

/-- Both calls of the capture driver succeed. -/
def Setup.served (call : Setup) : Bool := 0 ≤ call.setCallback && 0 ≤ call.setPeriod

/-- A call with a slot left loses it in no failure, and one without finds a
    negative value in its local. -/
def Serves (pointers : Bool) (before : List Setup) (call : Setup) : Prop :=
  (before.countP Setup.served < RC_MAX_CHANNELS →
    (0 ≤ call.setCallback → 0 ≤ call.setPeriod) ∧ (pointers = true → 0 ≤ call.setCallback)) ∧
  (RC_MAX_CHANNELS ≤ before.countP Setup.served → call.ret < 0)

def Served (pointers : Bool) (calls : List Setup) : Prop :=
  ∀ before call after, calls = before ++ call :: after → Serves pointers before call

theorem Table.setup_of_full {table : Table} (hfull : table.rc.freeSlot = none) (call : Setup) :
    table.ret call = call.ret ∧ table.setup call = table := by
  simp [Table.ret, Table.setup, rc_setup, hfull]

theorem Table.setup_of_served {table : Table} {slot : Fin RC_MAX_CHANNELS}
    (hfree : table.rc.freeSlot = some slot) {call : Setup} (hserved : call.served = true) :
    table.ret call = slot.val ∧
      (table.setup call).rc.channel = Function.update table.rc.channel slot (bound call.capture) ∧
      (table.setup call).pointer = Function.update table.pointer slot true := by
  obtain ⟨hcallback, hperiod⟩ : 0 ≤ call.setCallback ∧ 0 ≤ call.setPeriod := by
    simpa [Setup.served] using hserved
  have hcallback : ¬ call.setCallback < 0 := by omega
  have hperiod : ¬ call.setPeriod < 0 := by omega
  simp [Table.ret, Table.setup, rc_setup, hfree, hcallback, hperiod, bound]

/-- A refused callback gives the slot back, its pointer apart. -/
theorem Table.setup_of_setCallback_failed {table : Table} {slot : Fin RC_MAX_CHANNELS}
    (hfree : table.rc.freeSlot = some slot) {call : Setup} (hcallback : call.setCallback < 0) :
    table.ret call = call.setCallback ∧
      (table.setup call).rc.channel =
        Function.update table.rc.channel slot { bound call.capture with capture := none } ∧
      (table.setup call).pointer = Function.update table.pointer slot true := by
  simp [Table.ret, Table.setup, rc_setup, hfree, hcallback, bound]

/-- A refused period leaves the slot bound. -/
theorem Table.setup_of_setPeriod_failed {table : Table} {slot : Fin RC_MAX_CHANNELS}
    (hfree : table.rc.freeSlot = some slot) {call : Setup} (hcallback : 0 ≤ call.setCallback)
    (hperiod : call.setPeriod < 0) :
    table.ret call = call.setPeriod ∧
      (table.setup call).rc.channel = Function.update table.rc.channel slot (bound call.capture) := by
  have hcallback : ¬ call.setCallback < 0 := by omega
  simp [Table.ret, Table.setup, rc_setup, hfree, hcallback, hperiod, bound]

theorem setups_concat (calls : List Setup) (call : Setup) :
    setups (calls ++ [call]) =
      setups calls + if 0 ≤ (run Table.setup table0 calls).ret call then 1 else 0 := by
  simp [setups, List.countP_singleton]

/-- The table after calls none of which has lost a slot. -/
structure Table.Tracks (pointers : Bool) (calls : List Setup) (table : Table) : Prop where
  filled : FilledTo (fun slot => (table.rc.channel slot).capture.isNone) (calls.countP Setup.served)
  cleared : ∀ slot, (table.rc.channel slot).capture = none → table.rc.channel slot = rc0.channel slot
  pointer : pointers = true → ∀ slot, (table.rc.channel slot).capture = none → table.pointer slot = false
  counted : setups calls = min RC_MAX_CHANNELS (calls.countP Setup.served)

theorem Table.tracks_nil (pointers : Bool) : table0.Tracks pointers [] where
  filled slot := by simp [table0, rc0]
  cleared slot _ := rfl
  pointer _ slot _ := rfl
  counted := by simp [setups]

theorem Table.Tracks.freeSlot_of_lt {pointers : Bool} {calls : List Setup} {table : Table}
    (htracks : table.Tracks pointers calls) (hcount : calls.countP Setup.served < RC_MAX_CHANNELS) :
    table.rc.freeSlot = some ⟨calls.countP Setup.served, hcount⟩ :=
  find?_of_filledTo htracks.filled hcount

theorem Table.Tracks.freeSlot_of_ge {pointers : Bool} {calls : List Setup} {table : Table}
    (htracks : table.Tracks pointers calls) (hcount : RC_MAX_CHANNELS ≤ calls.countP Setup.served) :
    table.rc.freeSlot = none :=
  find?_of_full htracks.filled hcount

theorem freeSlot_capture {rc : Rc} {slot : Fin RC_MAX_CHANNELS} (hfree : rc.freeSlot = some slot) :
    (rc.channel slot).capture = none := by
  simpa using List.find?_some hfree

/-- A refused callback changes no slot but for its pointer. -/
theorem Table.Tracks.rc_of_setCallback_failed {pointers : Bool} {calls : List Setup} {table : Table}
    (htracks : table.Tracks pointers calls) {slot : Fin RC_MAX_CHANNELS}
    (hfree : table.rc.freeSlot = some slot) {call : Setup} (hcallback : call.setCallback < 0) :
    (table.setup call).rc = table.rc := by
  obtain ⟨_, hchannel, _⟩ := Table.setup_of_setCallback_failed hfree hcallback
  have hcleared := htracks.cleared slot (freeSlot_capture hfree)
  have hsame : (table.setup call).rc.channel = table.rc.channel := by
    rw [hchannel, Function.update_eq_self_iff, hcleared]
    rfl
  exact congrArg Rc.mk hsame

/-- A served call binds the next slot. -/
theorem Table.Tracks.concat_served {pointers : Bool} {calls : List Setup} {call : Setup}
    (htracks : (run Table.setup table0 calls).Tracks pointers calls)
    (hcount : calls.countP Setup.served < RC_MAX_CHANNELS) (hserved : call.served = true) :
    ((run Table.setup table0 calls).setup call).Tracks pointers (calls ++ [call]) := by
  obtain ⟨hret, hchannel, hpointer⟩ := Table.setup_of_served (htracks.freeSlot_of_lt hcount) hserved
  have hnext : (calls ++ [call]).countP Setup.served = calls.countP Setup.served + 1 := by
    simp [hserved]
  have hother : ∀ slot : Fin RC_MAX_CHANNELS,
      ((((run Table.setup table0 calls).setup call).rc.channel slot).capture = none) →
        slot ≠ ⟨calls.countP Setup.served, hcount⟩ := by
    rintro slot hnone rfl
    rw [hchannel, Function.update_self] at hnone
    simp [bound] at hnone
  refine ⟨?_, ?_, ?_, ?_⟩
  · rw [hnext]
    apply htracks.filled.take
    · intro slot hslot
      obtain rfl : slot = ⟨calls.countP Setup.served, hcount⟩ := Fin.ext hslot
      simp [hchannel, bound]
    · intro slot hslot
      have hne : slot ≠ ⟨calls.countP Setup.served, hcount⟩ := fun heq => hslot (Fin.ext_iff.mp heq)
      simp only [hchannel, Function.update_of_ne hne]
  · intro slot hnone
    have hne := hother slot hnone
    rw [hchannel, Function.update_of_ne hne] at hnone ⊢
    exact htracks.cleared slot hnone
  · intro hpointers slot hnone
    have hne := hother slot hnone
    rw [hchannel, Function.update_of_ne hne] at hnone
    rw [hpointer, Function.update_of_ne hne]
    exact htracks.pointer hpointers slot hnone
  · rw [setups_concat, hret, hnext, htracks.counted]
    simp
    omega

/-- A call that is not served, although its period is set whenever its callback is,
    has failed to set the callback. -/
theorem setCallback_failed_of_not_served {call : Setup} (hperiod : 0 ≤ call.setCallback → 0 ≤ call.setPeriod)
    (hserved : ¬ call.served = true) : call.setCallback < 0 := by
  by_contra hnot
  have hok : 0 ≤ call.setCallback := by omega
  exact hserved (by simp [Setup.served, hok, hperiod hok])

/-- A call that is provided for keeps the table on track. -/
theorem Table.Tracks.concat {pointers : Bool} {calls : List Setup} {call : Setup}
    (htracks : (run Table.setup table0 calls).Tracks pointers calls)
    (hserves : Serves pointers calls call) :
    ((run Table.setup table0 calls).setup call).Tracks pointers (calls ++ [call]) := by
  obtain ⟨hslot, hlocal⟩ := hserves
  by_cases hcount : calls.countP Setup.served < RC_MAX_CHANNELS
  · obtain ⟨hperiod, hcallback⟩ := hslot hcount
    by_cases hserved : call.served = true
    · exact htracks.concat_served hcount hserved
    · have hfailed := setCallback_failed_of_not_served hperiod hserved
      have hfree := htracks.freeSlot_of_lt hcount
      have hrc := htracks.rc_of_setCallback_failed hfree hfailed
      have hret := (Table.setup_of_setCallback_failed hfree hfailed).1
      have hnext : (calls ++ [call]).countP Setup.served = calls.countP Setup.served := by
        simp [hserved]
      refine ⟨?_, ?_, ?_, ?_⟩
      · rw [hnext, hrc]
        exact htracks.filled
      · rw [hrc]
        exact htracks.cleared
      · intro hpointers
        have hok := hcallback hpointers
        omega
      · have hneg : ¬ 0 ≤ call.setCallback := by omega
        rw [setups_concat, hret, if_neg hneg, hnext]
        exact htracks.counted
  · have hfull : RC_MAX_CHANNELS ≤ calls.countP Setup.served := by omega
    obtain ⟨hret, hsame⟩ := Table.setup_of_full (htracks.freeSlot_of_ge hfull) call
    have hneg : ¬ 0 ≤ call.ret := by
      have hlocal := hlocal hfull
      omega
    have hlater : RC_MAX_CHANNELS ≤ (calls ++ [call]).countP Setup.served := by
      rw [List.countP_append]
      omega
    rw [hsame]
    refine ⟨htracks.filled.full hfull hlater, htracks.cleared, htracks.pointer, ?_⟩
    rw [setups_concat, hret, if_neg hneg, htracks.counted]
    omega

theorem tracks_of_served {pointers : Bool} {calls : List Setup} (hserved : Served pointers calls) :
    (run Table.setup table0 calls).Tracks pointers calls := by
  induction calls using List.reverseRecOn with
  | nil => exact Table.tracks_nil pointers
  | append_singleton calls call ih =>
    obtain ⟨hcalls, hcall⟩ := (history.forall_split_concat (Serves pointers) calls call).mp hserved
    rw [run_append]
    exact (ih hcalls).concat hcall

theorem Table.Tracks.setsUp {pointers : Bool} {calls : List Setup} {call : Setup}
    (htracks : (run Table.setup table0 calls).Tracks pointers calls)
    (hserves : Serves pointers calls call) : SetsUp pointers calls call := by
  obtain ⟨hslot, hlocal⟩ := hserves
  by_cases hcount : calls.countP Setup.served < RC_MAX_CHANNELS
  · obtain ⟨hperiod, hcallback⟩ := hslot hcount
    have hfree := htracks.freeSlot_of_lt hcount
    by_cases hserved : call.served = true
    · obtain ⟨hret, hchannel, _⟩ := Table.setup_of_served hfree hserved
      refine ⟨fun _ => ⟨_, ?_, hret, freeSlot_capture hfree, hchannel⟩, ?_⟩
      · rw [htracks.counted]
        simp only
        omega
      · obtain ⟨hcallbackOk, hperiodOk⟩ : 0 ≤ call.setCallback ∧ 0 ≤ call.setPeriod := by
          simpa [Setup.served] using hserved
        rintro (hnone | hneg | hneg)
        · simp [hfree] at hnone
        · omega
        · omega
    · have hfailed := setCallback_failed_of_not_served hperiod hserved
      have hret := (Table.setup_of_setCallback_failed hfree hfailed).1
      refine ⟨?_, ?_⟩
      · intro hpositive
        rw [hret] at hpositive
        omega
      · intro _
        refine ⟨by rw [hret]; exact hfailed, htracks.rc_of_setCallback_failed hfree hfailed, ?_⟩
        intro hpointers
        have hok := hcallback hpointers
        omega
  · have hfull : RC_MAX_CHANNELS ≤ calls.countP Setup.served := by omega
    obtain ⟨hret, hsame⟩ := Table.setup_of_full (htracks.freeSlot_of_ge hfull) call
    have hneg := hlocal hfull
    refine ⟨?_, ?_⟩
    · intro hpositive
      rw [hret] at hpositive
      omega
    · intro _
      exact ⟨by rw [hret]; exact hneg, by rw [hsame], fun _ => by rw [hsame]⟩

theorem Table.Tracks.serves_of_setsUp {pointers : Bool} {calls : List Setup} {call : Setup}
    (htracks : (run Table.setup table0 calls).Tracks pointers calls) (hsetsUp : SetsUp pointers calls call) :
    Serves pointers calls call := by
  obtain ⟨_, hfails⟩ := hsetsUp
  refine ⟨?_, ?_⟩
  · intro hcount
    have hfree := htracks.freeSlot_of_lt hcount
    refine ⟨?_, ?_⟩
    · intro hcallback
      by_contra hnot
      have hneg : call.setPeriod < 0 := by omega
      obtain ⟨_, hsame, _⟩ := hfails (.inr (.inr hneg))
      have hchannel := (Table.setup_of_setPeriod_failed hfree hcallback hneg).2
      have hcapture := freeSlot_capture hfree
      rw [hsame] at hchannel
      rw [hchannel, Function.update_self] at hcapture
      simp [bound] at hcapture
    · intro hpointers
      by_contra hnot
      have hneg : call.setCallback < 0 := by omega
      obtain ⟨_, _, hsame⟩ := hfails (.inr (.inl hneg))
      have hpointer := (Table.setup_of_setCallback_failed hfree hneg).2.2
      have hclear := htracks.pointer hpointers _ (freeSlot_capture hfree)
      rw [hsame hpointers] at hpointer
      rw [hpointer, Function.update_self] at hclear
      exact absurd hclear (by simp)
  · intro hfull
    have hfree := htracks.freeSlot_of_ge hfull
    have hneg := (hfails (.inl hfree)).1
    rwa [(Table.setup_of_full hfree call).1] at hneg

/-- From the cleared table set-up is transactional in exactly those sequences of
    calls in which no period is refused after an accepted callback, no callback is
    refused where the pointers count, and no call without a slot finds a value
    that is not negative in its local. -/
theorem transactional_iff (pointers : Bool) (calls : List Setup) :
    Transactional pointers calls ↔ Served pointers calls := by
  induction calls using List.reverseRecOn with
  | nil => simp [Transactional, Served]
  | append_singleton calls call ih =>
    have hsetsUp : Transactional pointers (calls ++ [call]) ↔
        Transactional pointers calls ∧ SetsUp pointers calls call :=
      history.forall_split_concat (SetsUp pointers) calls call
    have hserves : Served pointers (calls ++ [call]) ↔
        Served pointers calls ∧ Serves pointers calls call :=
      history.forall_split_concat (Serves pointers) calls call
    rw [hsetsUp, hserves, ih]
    apply and_congr_right
    intro hserved
    have htracks := tracks_of_served hserved
    exact ⟨htracks.serves_of_setsUp, htracks.setsUp⟩

/-- A channel whose period is refused keeps its slot, so the retry gets the next
    one. -/
theorem not_transactional_setPeriod_failed :
    ¬ Transactional true
        [{ capture := 0, ret := 0, setCallback := 0, setPeriod := -1 },
          { capture := 0, ret := 0, setCallback := 0, setPeriod := 0 }] ∧
      ¬ Transactional false
        [{ capture := 0, ret := 0, setCallback := 0, setPeriod := -1 },
          { capture := 0, ret := 0, setCallback := 0, setPeriod := 0 }] := by
  simp only [transactional_iff]
  refine ⟨?_, ?_⟩
  all_goals
    intro hserved
    have hperiod := ((hserved [] _ _ rfl).1 (by decide)).1 (by decide)
    exact absurd hperiod (by decide)

end copter.remote_control
