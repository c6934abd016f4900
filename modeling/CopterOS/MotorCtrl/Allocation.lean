import CopterOS.Lib.History
import CopterOS.Lib.Slots
import CopterOS.MotorCtrl

open transition slots

namespace copter.motor_ctrl

def isEnable : Call → Bool
  | .motor_enable _ _ _ _ => true
  | .motor_disable _ _ => false
  | .motor_set _ _ _ => false

/-- The step is an enable call that returns no negative value. -/
def succeeds : Option Board × Call → Bool
  | (some board, .motor_enable id pwm setPeriod setDutyCycle) =>
    match motor_enable pwm setPeriod setDutyCycle board.motor id with
    | some outcome => decide (0 ≤ outcome.ret)
    | none => false
  | _ => false

def successes (calls : List Call) : ℕ := (history calls).countP succeeds

/-- The channel has a PWM unit, and the period of that unit has been set. -/
def Board.Backed (board : Board) (index : Fin MOTOR_MAX_CHANNELS) : Prop :=
  ∃ pwm ret, (board.motor.unit index).pwm = some pwm ∧ 0 ≤ ret ∧
    .pwm_setPeriod (some pwm) 20000 ret ∈ board.log

def Motor.enabledChannels (motor : Motor) : ℕ :=
  (List.finRange MOTOR_MAX_CHANNELS).countP fun index => (motor.unit index).enable

/-- What channel allocation promises of one call after the given ones: it stays
    inside the table, every channel it leaves enabled has a PWM unit with its
    period set, a failing enable call leaves the table as it was, the `k`-th
    successful one takes the channel `k`, and none fails for lack of a channel
    while there is a channel that is not enabled. -/
def Keeps (before : List Call) (call : Call) : Prop :=
  ∃ board outcome, run step (some board0) before = some board ∧ perform board.motor call = some outcome ∧
    (∀ index, (outcome.motor.unit index).enable = true →
      ({ motor := outcome.motor, log := board.log ++ outcome.calls } : Board).Backed index) ∧
    ∀ id pwm setPeriod setDutyCycle, call = .motor_enable id pwm setPeriod setDutyCycle →
      (outcome.ret < 0 → outcome.motor = board.motor) ∧
        (0 ≤ outcome.ret → ∃ index, index.val = successes before ∧ (board.motor.unit index).pwm = none ∧
          outcome.motor =
            board.motor.setUnit index { board.motor.unit index with enable := true, pwm := pwm }) ∧
        (board.motor.enabledChannels < MOTOR_MAX_CHANNELS → board.motor.freeSlot ≠ none)

def Allocates (calls : List Call) : Prop :=
  ∀ before call after, calls = before ++ call :: after → Keeps before call

/-- A channel has been disabled after the enable call that took it. -/
def Released (calls : List Call) : Prop :=
  ∃ first id ret rest, calls = first ++ .motor_disable id ret :: rest ∧
    id.toNat < MOTOR_MAX_CHANNELS ∧ id.toNat < first.countP isEnable

/-- The driver serves each of the first enable calls, no enable call follows
    these once one of their channels has been disabled, and no index lies outside
    the table where the module lets it pass. -/
def Provides (before : List Call) : Call → Prop
  | .motor_enable _ pwm setPeriod setDutyCycle =>
    (before.countP isEnable < MOTOR_MAX_CHANNELS → pwm ≠ none ∧ 0 ≤ setPeriod ∧ 0 ≤ setDutyCycle) ∧
      (MOTOR_MAX_CHANNELS ≤ before.countP isEnable → ¬ Released before)
  | .motor_disable id _ => id.toNat ≠ MOTOR_MAX_CHANNELS
  | .motor_set id _ _ => id.toNat < MOTOR_MAX_CHANNELS

def Provided (calls : List Call) : Prop :=
  ∀ before call after, calls = before ++ call :: after → Provides before call

/-- The board after calls all of which are provided for. -/
structure Tracks (calls : List Call) (board : Board) : Prop where
  reached : run step (some board0) calls = some board
  filled : FilledTo (fun index => (board.motor.unit index).pwm.isNone) (calls.countP isEnable)
  backed : ∀ index, (board.motor.unit index).pwm ≠ none → board.Backed index
  off : ∀ index, (board.motor.unit index).pwm = none → (board.motor.unit index).enable = false
  released : (∃ index, (board.motor.unit index).pwm ≠ none ∧ (board.motor.unit index).enable = false) ↔
    Released calls
  counted : successes calls = min MOTOR_MAX_CHANNELS (calls.countP isEnable)

theorem tracks_nil : Tracks [] board0 where
  reached := rfl
  filled slot := by simp [board0, motor_init, m]
  backed index hpwm := absurd rfl hpwm
  off index _ := rfl
  released := by simp [board0, motor_init, m, Released]
  counted := by simp [successes, history]

/-- Only a disable call on a channel that has been taken releases one. -/
theorem released_concat (calls : List Call) (call : Call) :
    Released (calls ++ [call]) ↔ Released calls ∨ ∃ id ret, call = .motor_disable id ret ∧
      id.toNat < MOTOR_MAX_CHANNELS ∧ id.toNat < calls.countP isEnable := by
  constructor
  · rintro ⟨first, id, ret, rest, hsplit, hid, hcount⟩
    rcases history.concat_eq_split hsplit with ⟨rfl, rfl, _⟩ | ⟨rest, rfl, rfl⟩
    · exact .inr ⟨id, ret, rfl, hid, hcount⟩
    · exact .inl ⟨first, id, ret, rest, rfl, hid, hcount⟩
  · rintro (⟨first, id, ret, rest, rfl, hid, hcount⟩ | ⟨id, ret, rfl, hid, hcount⟩)
    · exact ⟨first, id, ret, rest ++ [call], by simp, hid, hcount⟩
    · exact ⟨calls, id, ret, [], rfl, hid, hcount⟩

theorem successes_concat {calls : List Call} {board : Board}
    (hreached : run step (some board0) calls = some board) (call : Call) :
    successes (calls ++ [call]) = successes calls + if succeeds (some board, call) then 1 else 0 := by
  simp [successes, history, hreached, List.countP_singleton]

theorem run_concat {calls : List Call} {board : Board} {call : Call} {outcome : Outcome}
    (hreached : run step (some board0) calls = some board)
    (hperform : perform board.motor call = some outcome) :
    run step (some board0) (calls ++ [call]) =
      some { motor := outcome.motor, log := board.log ++ outcome.calls } := by
  rw [run_append, hreached]
  simp [step_of_outcome hperform]

theorem Board.Backed.mono {board : Board} {index : Fin MOTOR_MAX_CHANNELS} (hbacked : board.Backed index)
    {motor : Motor} (hpwm : (motor.unit index).pwm = (board.motor.unit index).pwm)
    (calls : List PwmCall) : ({ motor := motor, log := board.log ++ calls } : Board).Backed index := by
  obtain ⟨pwm, ret, hboard, hret, hmem⟩ := hbacked
  exact ⟨pwm, ret, hpwm.trans hboard, hret, List.mem_append_left _ hmem⟩

theorem enabledChannels_lt_iff (motor : Motor) :
    motor.enabledChannels < MOTOR_MAX_CHANNELS ↔ ∃ index, (motor.unit index).enable = false := by
  have hle : motor.enabledChannels ≤ MOTOR_MAX_CHANNELS := by
    simpa [Motor.enabledChannels] using
      List.countP_le_length (p := fun index => (motor.unit index).enable)
        (l := List.finRange MOTOR_MAX_CHANNELS)
  have hall : motor.enabledChannels = MOTOR_MAX_CHANNELS ↔ ∀ index, (motor.unit index).enable = true := by
    simpa [Motor.enabledChannels] using
      List.countP_eq_length (p := fun index => (motor.unit index).enable)
        (l := List.finRange MOTOR_MAX_CHANNELS)
  rw [lt_iff_le_and_ne, and_iff_right hle, ne_eq, hall]
  simp

theorem Tracks.freeSlot_of_lt {calls : List Call} {board : Board} (htracks : Tracks calls board)
    (hcount : calls.countP isEnable < MOTOR_MAX_CHANNELS) :
    board.motor.freeSlot = some ⟨calls.countP isEnable, hcount⟩ :=
  find?_of_filledTo htracks.filled hcount

theorem Tracks.freeSlot_of_ge {calls : List Call} {board : Board} (htracks : Tracks calls board)
    (hcount : MOTOR_MAX_CHANNELS ≤ calls.countP isEnable) : board.motor.freeSlot = none :=
  find?_of_full htracks.filled hcount

/-- With every slot taken, a channel that is not enabled has been released. -/
theorem Tracks.enabledChannels_lt_iff_released {calls : List Call} {board : Board}
    (htracks : Tracks calls board) (hcount : MOTOR_MAX_CHANNELS ≤ calls.countP isEnable) :
    board.motor.enabledChannels < MOTOR_MAX_CHANNELS ↔ Released calls := by
  have htaken := (freeSlot_eq_none_iff board.motor).mp (htracks.freeSlot_of_ge hcount)
  rw [enabledChannels_lt_iff, ← htracks.released]
  constructor
  · rintro ⟨index, hflag⟩
    exact ⟨index, Option.isSome_iff_ne_none.mp (htaken index), hflag⟩
  · rintro ⟨index, _, hflag⟩
    exact ⟨index, hflag⟩

/-- A call that sets no handle, drops no flag and counts as no enable call keeps
    the board on track. -/
theorem Tracks.concat_of_lines {calls : List Call} {board : Board} (htracks : Tracks calls board)
    {call : Call} {outcome : Outcome} (hperform : perform board.motor call = some outcome)
    (hcall : isEnable call = false)
    (hpwm : ∀ index, (outcome.motor.unit index).pwm = (board.motor.unit index).pwm)
    (hoff : ∀ index, (board.motor.unit index).enable = false → (outcome.motor.unit index).enable = false)
    (hreleased : (∃ index, (board.motor.unit index).pwm ≠ none ∧ (outcome.motor.unit index).enable = false) ↔
      Released (calls ++ [call])) :
    Tracks (calls ++ [call]) { motor := outcome.motor, log := board.log ++ outcome.calls } := by
  have hcount : (calls ++ [call]).countP isEnable = calls.countP isEnable := by
    simp [hcall]
  refine ⟨run_concat htracks.reached hperform, ?_, ?_, ?_, ?_, ?_⟩
  · intro slot
    simp only [hpwm, hcount]
    exact htracks.filled slot
  · intro index hindex
    exact (htracks.backed index (hpwm index ▸ hindex)).mono (hpwm index) outcome.calls
  · intro index hindex
    exact hoff index (htracks.off index ((hpwm index).symm.trans hindex))
  · simpa only [hpwm] using hreleased
  · have hfails : succeeds (some board, call) = false := by
      cases call with
      | motor_enable id pwm setPeriod setDutyCycle => simp [isEnable] at hcall
      | motor_disable id setDutyCycle => rfl
      | motor_set id value setDutyCycle => rfl
    rw [successes_concat htracks.reached, hfails, hcount]
    simpa using htracks.counted

theorem Tracks.concat_motor_set {calls : List Call} {board : Board} (htracks : Tracks calls board)
    {id value : UInt32} {setDutyCycle : ℤ} {outcome : Outcome}
    (hset : motor_set setDutyCycle board.motor id value = some outcome) :
    Tracks (calls ++ [.motor_set id value setDutyCycle])
      { motor := outcome.motor, log := board.log ++ outcome.calls } := by
  have hlines := motor_set_lines hset
  have hperform : perform board.motor (.motor_set id value setDutyCycle) = some outcome := hset
  apply htracks.concat_of_lines hperform rfl (fun index => (hlines index).2)
  · intro index hflag
    exact (hlines index).1.trans hflag
  · simp only [hlines, released_concat, ← htracks.released]
    simp

/-- A disable call releases the channel it names if that channel is taken. -/
theorem Tracks.concat_motor_disable {calls : List Call} {board : Board} (htracks : Tracks calls board)
    {id : UInt32} {setDutyCycle : ℤ} {outcome : Outcome}
    (hdisable : motor_disable setDutyCycle board.motor id = some outcome) :
    Tracks (calls ++ [.motor_disable id setDutyCycle])
      { motor := outcome.motor, log := board.log ++ outcome.calls } := by
  have hlines := motor_disable_lines hdisable
  have htaken : ∀ index, (board.motor.unit index).pwm ≠ none ↔ index.val < calls.countP isEnable := by
    intro index
    have hfilled := htracks.filled index
    rw [Option.isNone_iff_eq_none] at hfilled
    rw [ne_eq, hfilled, not_le]
  have hperform : perform board.motor (.motor_disable id setDutyCycle) = some outcome := hdisable
  apply htracks.concat_of_lines hperform rfl (fun index => (hlines index).2)
  · intro index hflag
    rw [(hlines index).1, hflag, ite_self]
  · rw [released_concat, ← htracks.released]
    constructor
    · rintro ⟨index, hpwm, hflag⟩
      by_cases hid : unit? id = some index
      · have hval := (unit?_eq_some_iff id index).mp hid
        have hindex := index.isLt
        have hcount := (htaken index).mp hpwm
        exact .inr ⟨id, setDutyCycle, rfl, by omega, by omega⟩
      · rw [(hlines index).1, if_neg hid] at hflag
        exact .inl ⟨index, hpwm, hflag⟩
    · rintro (⟨index, hpwm, hflag⟩ | ⟨target, ret, hcall, hid, hcount⟩)
      · exact ⟨index, hpwm, by rw [(hlines index).1, hflag, ite_self]⟩
      · obtain ⟨rfl, rfl⟩ : id = target ∧ setDutyCycle = ret := by simpa using hcall
        have hindex : unit? id = some ⟨id.toNat, hid⟩ := (unit?_eq_some_iff id _).mpr rfl
        exact ⟨⟨id.toNat, hid⟩, (htaken _).mpr hcount, by rw [(hlines _).1, if_pos hindex]⟩

/-- A served enable call takes the next slot. -/
theorem Tracks.concat_motor_enable {calls : List Call} {board : Board} (htracks : Tracks calls board)
    (hcount : calls.countP isEnable < MOTOR_MAX_CHANNELS) {id : UInt32} {pwm : Pwm}
    {setPeriod setDutyCycle : ℤ} (hperiod : 0 ≤ setPeriod) (hduty : 0 ≤ setDutyCycle) {outcome : Outcome}
    (henable : motor_enable (some pwm) setPeriod setDutyCycle board.motor id = some outcome) :
    Tracks (calls ++ [.motor_enable id (some pwm) setPeriod setDutyCycle])
      { motor := outcome.motor, log := board.log ++ outcome.calls } := by
  have hfree := htracks.freeSlot_of_lt hcount
  have hlines := motor_enable_lines henable
  obtain ⟨hret, hcalls⟩ : outcome.ret = setDutyCycle ∧
      .pwm_setPeriod (some pwm) 20000 setPeriod ∈ outcome.calls := by
    have hnot : ¬ setPeriod < 0 := by omega
    have heq := motor_enable_of_free hfree (some pwm) setPeriod setDutyCycle id
    obtain rfl := Option.some.inj (heq.symm.trans henable)
    simp [hnot]
  have hsame : ∀ index : Fin MOTOR_MAX_CHANNELS, index.val = calls.countP isEnable →
      (board.motor.unit index).pwm = none ∧ (outcome.motor.unit index).enable = true ∧
        (outcome.motor.unit index).pwm = some pwm := by
    intro index hindex
    have hslot : board.motor.freeSlot = some index := by
      rw [hfree, Option.some.injEq, Fin.ext_iff]
      exact hindex.symm
    exact ⟨freeSlot_pwm hslot, by rw [(hlines index).1, if_pos hslot], by rw [(hlines index).2, if_pos hslot]⟩
  have hother : ∀ index : Fin MOTOR_MAX_CHANNELS, index.val ≠ calls.countP isEnable →
      (outcome.motor.unit index).enable = (board.motor.unit index).enable ∧
        (outcome.motor.unit index).pwm = (board.motor.unit index).pwm := by
    intro index hindex
    have hslot : ¬ board.motor.freeSlot = some index := by
      rw [hfree, Option.some.injEq, Fin.ext_iff]
      exact fun heq => hindex heq.symm
    exact ⟨by rw [(hlines index).1, if_neg hslot], by rw [(hlines index).2, if_neg hslot]⟩
  have hnext : (calls ++ [Call.motor_enable id (some pwm) setPeriod setDutyCycle]).countP isEnable =
      calls.countP isEnable + 1 := by
    simp [isEnable]
  have hperform : perform board.motor (.motor_enable id (some pwm) setPeriod setDutyCycle) = some outcome :=
    henable
  refine ⟨run_concat htracks.reached hperform, ?_, ?_, ?_, ?_, ?_⟩
  · rw [hnext]
    apply htracks.filled.take
    · intro slot hslot
      simp [(hsame slot hslot).2.2]
    · intro slot hslot
      simp only [(hother slot hslot).2]
  · intro index hindex
    by_cases hslot : index.val = calls.countP isEnable
    · exact ⟨pwm, setPeriod, (hsame index hslot).2.2, hperiod, List.mem_append_right _ hcalls⟩
    · have hkept := (hother index hslot).2
      exact (htracks.backed index (hkept ▸ hindex)).mono hkept _
  · intro index hindex
    by_cases hslot : index.val = calls.countP isEnable
    · exact absurd ((hsame index hslot).2.2.symm.trans hindex) (by simp)
    · obtain ⟨hflag, hpwm⟩ := hother index hslot
      exact hflag.trans (htracks.off index (hpwm.symm.trans hindex))
  · rw [released_concat, ← htracks.released]
    simp only [reduceCtorEq, false_and, exists_false, or_false]
    apply exists_congr
    intro index
    by_cases hslot : index.val = calls.countP isEnable
    · simp [hsame index hslot]
    · simp [hother index hslot]
  · have hsucceeds :
        succeeds (some board, .motor_enable id (some pwm) setPeriod setDutyCycle) = true := by
      simp [succeeds, henable, hret, hduty]
    rw [successes_concat htracks.reached, hsucceeds, hnext, htracks.counted]
    simp
    omega

/-- A call that is provided for keeps the board on track. -/
theorem Tracks.concat {calls : List Call} {board : Board} (htracks : Tracks calls board) {call : Call}
    (hprovides : Provides calls call) :
    ∃ next, step (some board) call = some next ∧ Tracks (calls ++ [call]) next := by
  cases call with
  | motor_enable id pwm setPeriod setDutyCycle =>
    obtain ⟨hserved, _⟩ := hprovides
    by_cases hcount : calls.countP isEnable < MOTOR_MAX_CHANNELS
    · obtain ⟨hpwm, hperiod, hduty⟩ := hserved hcount
      obtain ⟨pwm, rfl⟩ := Option.ne_none_iff_exists'.mp hpwm
      have henable := motor_enable_of_free (htracks.freeSlot_of_lt hcount) (some pwm) setPeriod setDutyCycle id
      exact ⟨_, step_of_outcome henable, htracks.concat_motor_enable hcount hperiod hduty henable⟩
    · have hfull : MOTOR_MAX_CHANNELS ≤ calls.countP isEnable := by omega
      have henable := motor_enable_of_full (htracks.freeSlot_of_ge hfull) pwm setPeriod setDutyCycle id
      have hperform : perform board.motor (.motor_enable id pwm setPeriod setDutyCycle) = some _ := henable
      refine ⟨_, step_of_outcome hperform, run_concat htracks.reached hperform, ?_, ?_, htracks.off, ?_, ?_⟩
      · apply htracks.filled.full hfull
        simp [isEnable]
        omega
      · intro index hindex
        exact (htracks.backed index hindex).mono rfl []
      · rw [released_concat]
        simpa using htracks.released
      · have hfails : succeeds (some board, .motor_enable id pwm setPeriod setDutyCycle) = false := by
          simp [succeeds, henable]
        rw [successes_concat htracks.reached, hfails, htracks.counted]
        simp [isEnable]
        omega
  | motor_disable id setDutyCycle =>
    have hperform : ∃ outcome, motor_disable setDutyCycle board.motor id = some outcome := by
      cases hid : unit? id with
      | some index => exact ⟨_, motor_disable_of_unit hid setDutyCycle board.motor⟩
      | none =>
        have hrange := (unit?_eq_none_iff id).mp hid
        exact ⟨_, motor_disable_of_gt (lt_of_le_of_ne hrange (Ne.symm hprovides)) setDutyCycle board.motor⟩
    obtain ⟨outcome, hperform⟩ := hperform
    exact ⟨_, step_of_outcome hperform, htracks.concat_motor_disable hperform⟩
  | motor_set id value setDutyCycle =>
    have hindex : unit? id = some ⟨id.toNat, hprovides⟩ := (unit?_eq_some_iff id _).mpr rfl
    have hperform := motor_set_of_unit hindex setDutyCycle board.motor value
    exact ⟨_, step_of_outcome hperform, htracks.concat_motor_set hperform⟩

/-- On a board on track a channel is enabled only with its PWM unit set up. -/
theorem Tracks.backed_of_enabled {calls : List Call} {board : Board} (htracks : Tracks calls board)
    {index : Fin MOTOR_MAX_CHANNELS} (hflag : (board.motor.unit index).enable = true) :
    board.Backed index := by
  apply htracks.backed
  intro hpwm
  simp [htracks.off index hpwm] at hflag

theorem Tracks.keeps {calls : List Call} {board : Board} (htracks : Tracks calls board) {call : Call}
    (hprovides : Provides calls call) : Keeps calls call := by
  obtain ⟨next, hstep, hnext⟩ := htracks.concat hprovides
  obtain ⟨outcome, hperform, hmotor, hlog⟩ := step_eq_some hstep
  refine ⟨board, outcome, htracks.reached, hperform, ?_, ?_⟩
  · intro index hflag
    rw [← hmotor, ← hlog]
    exact hnext.backed_of_enabled (hmotor ▸ hflag)
  · rintro id pwm setPeriod setDutyCycle rfl
    obtain ⟨hserved, hreleased⟩ := hprovides
    by_cases hcount : calls.countP isEnable < MOTOR_MAX_CHANNELS
    · obtain ⟨_, hperiod, hduty⟩ := hserved hcount
      have hfree := htracks.freeSlot_of_lt hcount
      have hnot : ¬ setPeriod < 0 := by omega
      have heq := motor_enable_of_free hfree pwm setPeriod setDutyCycle id
      obtain rfl := Option.some.inj (heq.symm.trans hperform)
      refine ⟨?_, ?_, by simp [hfree]⟩
      · intro hret
        simp only [if_neg hnot] at hret
        omega
      · intro _
        refine ⟨_, ?_, freeSlot_pwm hfree, rfl⟩
        rw [htracks.counted]
        simp only
        omega
    · have hfull : MOTOR_MAX_CHANNELS ≤ calls.countP isEnable := by omega
      have heq := motor_enable_of_full (htracks.freeSlot_of_ge hfull) pwm setPeriod setDutyCycle id
      obtain rfl := Option.some.inj (heq.symm.trans hperform)
      refine ⟨fun _ => rfl, fun hret => absurd hret (by simp), ?_⟩
      intro hlt
      exact absurd ((htracks.enabledChannels_lt_iff_released hfull).mp hlt) (hreleased hfull)

/-- An enable call that finds a free slot but is not served leaves its slot
    marked. -/
theorem Tracks.served_of_keeps {calls : List Call} {board : Board} (htracks : Tracks calls board)
    {id : UInt32} {pwm : Option Pwm} {setPeriod setDutyCycle : ℤ}
    (hkeeps : Keeps calls (.motor_enable id pwm setPeriod setDutyCycle))
    (hcount : calls.countP isEnable < MOTOR_MAX_CHANNELS) :
    pwm ≠ none ∧ 0 ≤ setPeriod ∧ 0 ≤ setDutyCycle := by
  obtain ⟨other, outcome, hreached, hperform, hbacked, hcall⟩ := hkeeps
  obtain rfl : board = other := Option.some.inj (htracks.reached.symm.trans hreached)
  obtain ⟨hfails, _, _⟩ := hcall id pwm setPeriod setDutyCycle rfl
  have hfree := htracks.freeSlot_of_lt hcount
  have hlines := motor_enable_lines hperform ⟨_, hcount⟩
  rw [if_pos hfree, if_pos hfree] at hlines
  have hret : 0 ≤ outcome.ret := by
    by_contra hneg
    have hoff := htracks.off _ (freeSlot_pwm hfree)
    rw [← hfails (by omega), hlines.1] at hoff
    simp at hoff
  have heq := motor_enable_of_free hfree pwm setPeriod setDutyCycle id
  obtain ⟨handle, _, hhandle, _⟩ := hbacked _ hlines.1
  refine ⟨?_, ?_⟩
  · intro hnone
    rw [hlines.2, hnone] at hhandle
    simp at hhandle
  · obtain rfl := Option.some.inj (heq.symm.trans hperform)
    by_cases hperiod : setPeriod < 0
    · simp only [if_pos hperiod] at hret
      omega
    · simp only [if_neg hperiod] at hret
      omega

theorem Tracks.provides_of_keeps {calls : List Call} {board : Board} (htracks : Tracks calls board)
    {call : Call} (hkeeps : Keeps calls call) : Provides calls call := by
  cases call with
  | motor_enable id pwm setPeriod setDutyCycle =>
    refine ⟨htracks.served_of_keeps hkeeps, ?_⟩
    intro hfull hreleased
    obtain ⟨other, outcome, hreached, hperform, _, hcall⟩ := hkeeps
    obtain rfl : board = other := Option.some.inj (htracks.reached.symm.trans hreached)
    obtain ⟨_, _, havailable⟩ := hcall id pwm setPeriod setDutyCycle rfl
    exact havailable ((htracks.enabledChannels_lt_iff_released hfull).mpr hreleased)
      (htracks.freeSlot_of_ge hfull)
  | motor_disable id setDutyCycle =>
    obtain ⟨other, outcome, _, hperform, _⟩ := hkeeps
    intro hid
    rw [perform, motor_disable_of_eq hid] at hperform
    simp at hperform
  | motor_set id value setDutyCycle =>
    obtain ⟨other, outcome, _, hperform, _⟩ := hkeeps
    by_contra hid
    have hnone := (unit?_eq_none_iff id).mpr (by simpa [Provides] using hid)
    rw [perform, motor_set_of_no_unit hnone] at hperform
    simp at hperform

theorem tracks_of_provided {calls : List Call} (hprovided : Provided calls) :
    ∃ board, Tracks calls board := by
  induction calls using List.reverseRecOn with
  | nil => exact ⟨board0, tracks_nil⟩
  | append_singleton calls call ih =>
    obtain ⟨hcalls, hcall⟩ := (history.forall_split_concat Provides calls call).mp hprovided
    obtain ⟨board, htracks⟩ := ih hcalls
    obtain ⟨next, _, hnext⟩ := htracks.concat hcall
    exact ⟨next, hnext⟩

/-- From the empty table allocation keeps its promises in exactly those sequences
    of calls that are provided for. -/
theorem allocates_iff (calls : List Call) : Allocates calls ↔ Provided calls := by
  induction calls using List.reverseRecOn with
  | nil => simp [Allocates, Provided]
  | append_singleton calls call ih =>
    have hkeeps : Allocates (calls ++ [call]) ↔ Allocates calls ∧ Keeps calls call :=
      history.forall_split_concat Keeps calls call
    have hprovides : Provided (calls ++ [call]) ↔ Provided calls ∧ Provides calls call :=
      history.forall_split_concat Provides calls call
    rw [hkeeps, hprovides, ih]
    apply and_congr_right
    intro hprovided
    obtain ⟨board, htracks⟩ := tracks_of_provided hprovided
    exact ⟨htracks.provides_of_keeps, htracks.keeps⟩

/-- A PWM unit that refuses its period stays bound to an enabled channel. -/
theorem not_allocates_setPeriod_failed : ¬ Allocates [.motor_enable 0 (some 0) (-1) 0] := by
  rw [allocates_iff]
  intro hprovided
  have hserved := (hprovided [] _ [] rfl).1 (by decide)
  exact absurd hserved.2.1 (by decide)

end copter.motor_ctrl
