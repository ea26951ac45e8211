import Scrutiny.Datalogging.Position

open foundation

namespace scrutiny.datalogging

section

variable [Platform]

namespace DataLogger

/-- What the operands of the trigger were fetched to in a call of `process`, if they were. -/
def fetch (self : DataLogger) (handler : Config) (timebases : LoopId → Timebase)
    (memory : Memory) : Bool × DataLogger :=
  let (acquired, memory) := self.process_acquisition handler timebases memory
  (fetch_operands handler self.m_trigger.active_condition.operand_count.toNat 0 acquired memory).1

/-- A call of `process` fetches the operands and finds the condition true. -/
def condition_true (self : DataLogger) (handler : Config) (timebases : LoopId → Timebase)
    (memory : Memory) : Bool :=
  (self.fetch handler timebases memory).1 &&
    (self.m_trigger.active_condition.eval_fn self.m_trigger.condition_data
      (self.fetch handler timebases memory).2.ops_data).1

/-- The datalogger is armed, and goes on finding the condition true. -/
def HoldsTrue (self : DataLogger) : Call → Prop
  | .process handler timebases memory => self.m_state = .Armed ∧
      self.condition_true handler timebases memory = true
  | _ => self.m_state = .Armed

instance (self : DataLogger) : (c : Call) → Decidable (self.HoldsTrue c)
  | .process _ _ _ => inferInstanceAs (Decidable (_ ∧ _))
  | .configure _ _ _ _ | .reset _ | .arm_trigger | .disarm_trigger | .force_trigger =>
    inferInstanceAs (Decidable (self.m_state = .Armed))

/-- The datalogger is armed, and this call of `process` finds the condition true. -/
def FindsTrue (self : DataLogger) : Call → Prop
  | .process handler timebases memory => self.m_state = .Armed ∧
      self.condition_true handler timebases memory = true
  | _ => False

instance (self : DataLogger) : (c : Call) → Decidable (self.FindsTrue c)
  | .process _ _ _ => inferInstanceAs (Decidable (_ ∧ _))
  | .configure _ _ _ _ | .reset _ | .arm_trigger | .disarm_trigger | .force_trigger =>
    inferInstanceAs (Decidable False)

/-- The time at which a call of `process` is made. -/
def time_of (self : DataLogger) : Call → timestamp_t
  | .process _ timebases _ => (self.timebase timebases).get_timestamp
  | _ => 0

/-- The datalogger has been armed since a call of `process` at this time, and the condition
true in it and in all that came after it. -/
def TrueSince (timestamp : timestamp_t) (start : DataLogger) (calls : List Call) : Prop :=
  Once call (fun d c later => FindsTrue d c ∧ d.time_of c = timestamp ∧
    Along call HoldsTrue (d.call c) later) start calls

/-- The trigger of an armed datalogger is forced. -/
def Forces (self : DataLogger) : Call → Prop
  | .force_trigger => self.m_state = .Armed
  | _ => False

instance (self : DataLogger) : (c : Call) → Decidable (self.Forces c)
  | .force_trigger => inferInstanceAs (Decidable (self.m_state = .Armed))
  | .configure _ _ _ _ | .reset _ | .arm_trigger | .disarm_trigger | .process _ _ _ =>
    inferInstanceAs (Decidable False)

/-- The trigger was forced since the datalogger was armed. -/
def Forced (start : DataLogger) (calls : List Call) : Prop :=
  Once call (fun d c later => Forces d c ∧
    Always call (fun d => d.m_state = .Armed) (d.call c) later) start calls

instance (start : DataLogger) (calls : List Call) : Decidable (Forced start calls) :=
  inferInstanceAs (Decidable (Once _ _ _ _))

/-- An armed datalogger finds its trigger; the acquisition may be completed at once. -/
def Fires (self : DataLogger) (c : Call) : Prop :=
  self.m_state = .Armed ∧
    ((self.call c).m_state = .Triggered ∨ (self.call c).m_state = .AcquisitionCompleted)

instance (self : DataLogger) (c : Call) : Decidable (self.Fires c) :=
  inferInstanceAs (Decidable (_ ∧ _))

/-- The trigger was forced since the datalogger was armed, or the condition has been true for
the hold time: it was found true by a call of `process` at least that long ago, the datalogger
has been armed since, and all the calls of `process` since have found the condition true. -/
def Due (start : DataLogger) (calls : List Call) : Call → Prop
  | .process handler timebases memory => Forced start calls ∨
      Once call (fun d c later => FindsTrue d c ∧ Along call HoldsTrue (d.call c) later ∧
          ((run call start calls).timebase timebases).elapsed_since (d.time_of c) ≥
            (run call start calls).m_config.trigger.hold_time_100ns)
        start (calls ++ [.process handler timebases memory])
  | _ => False

instance (start : DataLogger) (calls : List Call) : (c : Call) → Decidable (Due start calls c)
  | .process _ _ _ => inferInstanceAs (Decidable (_ ∨ Once _ _ _ _))
  | .configure _ _ _ _ | .reset _ | .arm_trigger | .disarm_trigger | .force_trigger =>
    inferInstanceAs (Decidable False)

/-- The datalogger is armed without a trace of what was found before, and its operands can be
fetched when the condition was true. -/
def ArmsAfresh (self : DataLogger) : Call → Prop
  | .arm_trigger => self.m_state = .Configured ∨ self.m_state = .AcquisitionCompleted ∨
      self.m_state = .Triggered →
        self.m_trigger.previous_val = false ∧ self.m_manual_trigger = false
  | .process handler timebases memory => self.m_state = .Armed → self.m_manual_trigger = false →
      self.m_trigger.previous_val = true → (self.fetch handler timebases memory).1 = true
  | _ => True

instance (self : DataLogger) : (c : Call) → Decidable (self.ArmsAfresh c)
  | .arm_trigger => inferInstanceAs (Decidable (_ → _ ∧ _))
  | .process _ _ _ => inferInstanceAs (Decidable (_ → _ → _ → _))
  | .configure _ _ _ _ | .reset _ | .disarm_trigger | .force_trigger =>
    inferInstanceAs (Decidable True)

/-- What a call of `process` does with the trigger of an armed datalogger. -/
inductive ArmedStep (d after : DataLogger) (handler : Config) (timebases : LoopId → Timebase)
    (memory : Memory) : Prop
  | forced (hforced : d.m_manual_trigger = true) (hfired : after.m_state ≠ .Armed)
  | unchanged (hmanual : d.m_manual_trigger = false) (hstate : after.m_state = .Armed)
      (hfetch : (d.fetch handler timebases memory).1 = false)
      (hmanual' : after.m_manual_trigger = false)
      (hprevious : after.m_trigger.previous_val = d.m_trigger.previous_val)
  | found_false (hmanual : after.m_manual_trigger = false) (hstate : after.m_state = .Armed)
      (hprevious : after.m_trigger.previous_val = false)
  | found_true (hmanual : after.m_manual_trigger = false)
      (htrue : d.condition_true handler timebases memory = true)
      (hprevious : after.m_trigger.previous_val = true)
      (hrising : after.m_trigger.rising_edge_timestamp =
        if d.m_trigger.previous_val then d.m_trigger.rising_edge_timestamp
        else (d.timebase timebases).get_timestamp)
      (hheld : after.m_state ≠ .Armed →
        (d.timebase timebases).has_expired after.m_trigger.rising_edge_timestamp
          d.m_config.trigger.hold_time_100ns = true)

omit [Platform] in
theorem evaluate_condition_true (d : DataLogger) (timebases : LoopId → Timebase)
    (htrue : (d.m_trigger.active_condition.eval_fn d.m_trigger.condition_data d.ops_data).1 =
      true) :
    (d.evaluate_condition timebases).2.m_trigger.rising_edge_timestamp =
        (if d.m_trigger.previous_val then d.m_trigger.rising_edge_timestamp
        else (d.timebase timebases).get_timestamp) ∧
      (d.evaluate_condition timebases).1 = (d.timebase timebases).has_expired
        (d.evaluate_condition timebases).2.m_trigger.rising_edge_timestamp
          d.m_config.trigger.hold_time_100ns := by
  rw [evaluate_condition]
  simp only [htrue, true_and, Bool.true_and]
  refine ⟨?_, trivial⟩
  cases d.m_trigger.previous_val <;> rfl

omit [Platform] in
theorem evaluate_condition_false (d : DataLogger) (timebases : LoopId → Timebase)
    (hfalse : (d.m_trigger.active_condition.eval_fn d.m_trigger.condition_data d.ops_data).1 =
      false) :
    (d.evaluate_condition timebases).1 = false ∧
      (d.evaluate_condition timebases).2.m_trigger.previous_val = false := by
  rw [evaluate_condition]
  simp only [hfalse, Bool.false_and]
  exact ⟨trivial, trivial⟩

/-- What the trigger keeps when nothing is found, or when it is forced. -/
theorem process_trigger_armed {d : DataLogger} (harmed : d.m_state = .Armed) (handler : Config)
    (timebases : LoopId → Timebase) (memory : Memory) :
    let checked := (d.check_trigger handler timebases memory).1
    let looked := (d.process_trigger handler timebases memory).1
    looked.m_trigger = checked.2.m_trigger ∧
      looked.m_manual_trigger = checked.2.m_manual_trigger ∧
      looked.m_state = if checked.1 then .Triggered else .Armed := by
  obtain ⟨m_trigger, ops_data, m_manual_trigger, hchecked⟩ :=
    d.check_trigger_frame handler timebases memory
  simp only [process_trigger, if_pos harmed]
  split
  · exact ⟨rfl, rfl, rfl⟩
  · rw [hchecked]
    exact ⟨rfl, rfl, harmed⟩

theorem process_completion_armed (d : DataLogger) (timebases : LoopId → Timebase) :
    (d.process_completion timebases).m_trigger = d.m_trigger ∧
      (d.process_completion timebases).m_manual_trigger = d.m_manual_trigger ∧
      ((d.process_completion timebases).m_state = .Armed ↔ d.m_state = .Armed) := by
  unfold process_completion
  split
  · rename_i hcompleted
    exact ⟨rfl, rfl, iff_of_false State.noConfusion (by simp [hcompleted.1])⟩
  · exact ⟨rfl, rfl, Iff.rfl⟩

/-- What the check of an armed datalogger comes to. -/
inductive Checked (d : DataLogger) (fetched result : Bool × DataLogger)
    (timebases : LoopId → Timebase) : Prop
  | forced (hmanual : d.m_manual_trigger = true) (hresult : result.1 = true)
  | unfetched (hmanual : d.m_manual_trigger = false) (hfetched : fetched.1 = false)
      (hresult : result.1 = false) (htrigger : result.2.m_trigger = d.m_trigger)
      (hmanual' : result.2.m_manual_trigger = false)
  | evaluated (hmanual : d.m_manual_trigger = false) (hfetched : fetched.1 = true)
      (hresult : result = fetched.2.evaluate_condition timebases)

theorem check_trigger_checked {d : DataLogger} (harmed : d.m_state = .Armed)
    (hcount : d.m_trigger.active_condition.operand_count.toNat ≤ MAX_OPERANDS) (handler : Config)
    (timebases : LoopId → Timebase) (memory : Memory) :
    Checked d (fetch_operands handler d.m_trigger.active_condition.operand_count.toNat 0 d memory).1
      (d.check_trigger handler timebases memory).1 timebases := by
  obtain ⟨ops_data, hframe⟩ := fetch_operands_frame handler
    d.m_trigger.active_condition.operand_count.toNat 0 d memory
  unfold check_trigger
  simp only
  rw [if_neg (by simp [harmed]), if_neg (Nat.not_lt.mpr hcount)]
  split
  · rename_i hmanual
    exact .forced hmanual rfl
  · rename_i hmanual
    have hmanual := Bool.eq_false_of_not_eq_true hmanual
    split
    · rename_i hfetched
      refine .unfetched hmanual hfetched rfl ?_ ?_
      · rw [hframe]
      · rw [hframe]
        exact hmanual
    · rename_i hfetched
      exact .evaluated hmanual (Bool.eq_true_of_not_eq_false hfetched) rfl

/-- The condition stays the one that was configured. -/
theorem check_trigger_active_condition (self : DataLogger) (handler : Config)
    (timebases : LoopId → Timebase) (memory : Memory) :
    (self.check_trigger handler timebases memory).1.2.m_trigger.active_condition =
      self.m_trigger.active_condition := by
  obtain ⟨ops_data, hframe⟩ := fetch_operands_frame handler
    self.m_trigger.active_condition.operand_count.toNat 0 self memory
  unfold check_trigger
  simp only
  repeat' split
  · rfl
  · rfl
  · rfl
  · rw [hframe]
  · rw [evaluate_condition, hframe]

theorem process_armed_step {d : DataLogger} (harmed : d.m_state = .Armed)
    (herror : d.m_encoder.m_error = false)
    (hcount : d.m_trigger.active_condition.operand_count.toNat ≤ MAX_OPERANDS) (handler : Config)
    (timebases : LoopId → Timebase) (memory : Memory) :
    ArmedStep d (d.process handler timebases memory).1 handler timebases memory := by
  have hacquired := d.process_acquisition_eq handler timebases memory
  have hactive : d.m_state.active = true := by rw [harmed]; rfl
  have hfetch : d.fetch handler timebases memory = (fetch_operands handler
      d.m_trigger.active_condition.operand_count.toNat 0
      (d.process_acquisition handler timebases memory).1
      (d.process_acquisition handler timebases memory).2).1 := rfl
  rw [process_active hactive herror]
  generalize (d.process_acquisition handler timebases memory).2 = memory' at hfetch ⊢
  generalize (d.process_acquisition handler timebases memory).1 = acquired at hfetch hacquired ⊢
  have harmed' : acquired.m_state = .Armed := by rw [hacquired, harmed]
  have htrigger' : acquired.m_trigger = d.m_trigger := by rw [hacquired]
  have hmanual' : acquired.m_manual_trigger = d.m_manual_trigger := by rw [hacquired]
  have hconfig' : acquired.m_config = d.m_config := by rw [hacquired]
  have htimebase' : acquired.timebase timebases = d.timebase timebases := by rw [hacquired]; rfl
  rw [← htrigger'] at hcount hfetch
  have hchecked := check_trigger_checked harmed' hcount handler timebases memory'
  rw [← hfetch] at hchecked
  obtain ⟨htrigger, hmanual, hstate⟩ := process_trigger_armed harmed' handler timebases memory'
  generalize (acquired.check_trigger handler timebases memory').1 = checked at *
  generalize (acquired.process_trigger handler timebases memory').1 = looked at *
  obtain ⟨hcompleted, hcompleted', hcompleted''⟩ := looked.process_completion_armed timebases
  cases hchecked with
  | forced hforced hresult =>
    refine .forced (hmanual'.symm.trans hforced) ?_
    rw [Ne, hcompleted'', hstate, hresult]
    exact State.noConfusion
  | unfetched hunforced hfetched hresult hsame hsame' =>
    refine .unchanged (hmanual'.symm.trans hunforced) ?_ hfetched ?_ ?_
    · rw [hcompleted'', hstate, hresult]
      rfl
    · rw [hcompleted', hmanual, hsame']
    · rw [hcompleted, htrigger, hsame, htrigger']
  | evaluated hunforced hfetched hresult =>
    obtain ⟨ops_data, hframe⟩ := fetch_operands_frame handler
      acquired.m_trigger.active_condition.operand_count.toNat 0 acquired memory'
    rw [← hfetch] at hframe
    have hcondition : d.condition_true handler timebases memory =
        (acquired.m_trigger.active_condition.eval_fn acquired.m_trigger.condition_data
          ops_data).1 := by
      rw [condition_true, hfetched, Bool.true_and, hframe, htrigger']
    have hunforced' : checked.2.m_manual_trigger = false := by
      rw [hresult, hframe]
      exact hunforced
    rw [hframe] at hresult
    cases htrue : d.condition_true handler timebases memory with
    | false =>
      obtain ⟨hnot, hprevious⟩ := evaluate_condition_false { acquired with ops_data } timebases
        (hcondition.symm.trans htrue)
      refine .found_false ?_ ?_ ?_
      · rw [hcompleted', hmanual, hunforced']
      · rw [hcompleted'', hstate, hresult, hnot]
        rfl
      · rw [hcompleted, htrigger, hresult, hprevious]
    | true =>
      obtain ⟨hrising, hheld⟩ := evaluate_condition_true { acquired with ops_data } timebases
        (hcondition.symm.trans htrue)
      rw [← hresult] at hrising hheld
      refine .found_true ?_ htrue ?_ ?_ fun hfired => ?_
      · rw [hcompleted', hmanual, hunforced']
      · rw [hcompleted, htrigger, hresult]
        exact hcondition.symm.trans htrue
      · rw [hcompleted, htrigger, hrising, ← htrigger', ← htimebase']
        rfl
      · rw [Ne, hcompleted'', hstate] at hfired
        have hfound : checked.1 = true := by
          by_contra hnot
          exact hfired (if_neg hnot)
        rw [hcompleted, htrigger, ← htimebase', ← hconfig', ← hfound, hheld]
        rfl

theorem process_active_condition (d : DataLogger) (handler : Config)
    (timebases : LoopId → Timebase) (memory : Memory) :
    (d.process handler timebases memory).1.m_trigger.active_condition =
      d.m_trigger.active_condition := by
  cases hactive : d.m_state.active with
  | false => rw [process_inactive hactive]
  | true =>
    cases herror : d.m_encoder.m_error with
    | true => rw [process_error hactive herror]
    | false =>
      have hacquired := d.process_acquisition_eq handler timebases memory
      have hlooked (acquired : DataLogger) (memory : Memory) :
          (acquired.process_trigger handler timebases memory).1.m_trigger.active_condition =
            acquired.m_trigger.active_condition := by
        by_cases harmed : acquired.m_state = .Armed
        · rw [(process_trigger_armed harmed handler timebases memory).1]
          exact acquired.check_trigger_active_condition handler timebases memory
        · rw [process_trigger, if_neg harmed]
      rw [process_active hactive herror, (process_completion_armed _ timebases).1, hlooked,
        hacquired]

theorem configure_active_condition (d : DataLogger) (handler : Config) (timebase : Option LoopId)
    (config_id : uint16_t) :
    (d.configure handler timebase config_id).m_trigger.active_condition =
      (trigger.CONDITION_CONFIG_LUT[d.m_config.trigger.condition.toNat]?).getD
        trigger.AlwaysTrueCondition := by
  unfold configure
  simp only
  split <;> rfl

theorem condition_operands {condition : trigger.ActiveCondition}
    (hcondition : condition ∈ trigger.CONDITION_CONFIG_LUT) :
    condition.operand_count.toNat ≤ MAX_OPERANDS := by
  simp only [trigger.CONDITION_CONFIG_LUT, List.mem_cons, List.not_mem_nil, or_false] at hcondition
  rcases hcondition with rfl | rfl | rfl | rfl | rfl | rfl | rfl | rfl | rfl <;>
    exact Nat.le_of_ble_eq_true rfl

/-- No condition has more operands than there is room for. -/
theorem call_operands {d : DataLogger}
    (hcount : d.m_trigger.active_condition.operand_count.toNat ≤ MAX_OPERANDS) (c : Call) :
    (d.call c).m_trigger.active_condition.operand_count.toNat ≤ MAX_OPERANDS := by
  cases c with
  | configure m_config handler timebase config_id =>
    change ({ d with m_config }.configure handler timebase
      config_id).m_trigger.active_condition.operand_count.toNat ≤ MAX_OPERANDS
    rw [configure_active_condition]
    cases hfound : trigger.CONDITION_CONFIG_LUT[m_config.trigger.condition.toNat]? with
    | none => decide
    | some condition => exact condition_operands (List.mem_of_getElem? hfound)
  | reset m_config => exact Nat.zero_le _
  | arm_trigger =>
    rw [call, arm_trigger]
    split <;> exact hcount
  | disarm_trigger =>
    rw [call, disarm_trigger]
    split <;> exact hcount
  | force_trigger =>
    rw [call, force_trigger]
    split <;> exact hcount
  | process handler timebases memory =>
    rw [call, process_active_condition]
    exact hcount

theorem Forced.snoc {start : DataLogger} {calls : List Call} (h : Forced start calls) {c : Call}
    (harmed : ((run call start calls).call c).m_state = .Armed) : Forced start (calls ++ [c]) := by
  refine Once.snoc h fun d c' later hlast hforced => ⟨hforced.1, hforced.2.snoc ?_⟩
  rw [hlast]
  exact harmed

theorem TrueSince.snoc {start : DataLogger} {calls : List Call} {timestamp : timestamp_t}
    (h : TrueSince timestamp start calls) {c : Call} (hholds : HoldsTrue (run call start calls) c) :
    TrueSince timestamp start (calls ++ [c]) := by
  refine Once.snoc h fun d c' later hlast htrue => ⟨htrue.1, htrue.2.1, ?_⟩
  refine Along.append.mpr ⟨htrue.2.2, ?_, trivial⟩
  rw [hlast]
  exact hholds

/-- What an armed datalogger remembers really happened since it was armed. -/
structure Explained (start : DataLogger) (calls : List Call) (d : DataLogger) : Prop where
  operands : d.m_trigger.active_condition.operand_count.toNat ≤ MAX_OPERANDS
  forced : d.m_state = .Armed → d.m_manual_trigger = true → Forced start calls
  since : d.m_state = .Armed → d.m_trigger.previous_val = true →
    TrueSince d.m_trigger.rising_edge_timestamp start calls

/-- The condition has been true since the time that is kept for the hold time. -/
theorem Explained.found_true {start : DataLogger} {calls : List Call} {handler : Config}
    {timebases : LoopId → Timebase} {memory : Memory} {after : DataLogger}
    (h : Explained start calls (run call start calls))
    (harmed : (run call start calls).m_state = .Armed)
    (htrue : (run call start calls).condition_true handler timebases memory = true)
    (hrising : after.m_trigger.rising_edge_timestamp =
      if (run call start calls).m_trigger.previous_val then
        (run call start calls).m_trigger.rising_edge_timestamp
      else ((run call start calls).timebase timebases).get_timestamp) :
    TrueSince after.m_trigger.rising_edge_timestamp start
      (calls ++ [.process handler timebases memory]) := by
  rw [hrising]
  split
  · rename_i hprevious
    exact (h.since harmed hprevious).snoc ⟨harmed, htrue⟩
  · exact Once.last ⟨⟨harmed, htrue⟩, rfl, trivial⟩

/-- No call of `process` arms the datalogger. -/
theorem process_not_armed {d : DataLogger} (hstate : d.m_state ≠ .Armed) (handler : Config)
    (timebases : LoopId → Timebase) (memory : Memory) :
    (d.process handler timebases memory).1.m_state ≠ .Armed := by
  cases hactive : d.m_state.active with
  | false =>
    rw [process_inactive hactive]
    exact hstate
  | true =>
    cases herror : d.m_encoder.m_error with
    | true =>
      rw [process_error hactive herror]
      exact State.noConfusion
    | false =>
      have hacquired := d.process_acquisition_eq handler timebases memory
      have hstate' : (d.process_acquisition handler timebases memory).1.m_state ≠ .Armed := by
        rw [hacquired]
        exact hstate
      rw [process_active hactive herror, Ne, (process_completion_armed _ timebases).2.2,
        process_trigger, if_neg hstate']
      exact hstate'

theorem Explained.process {start : DataLogger} {calls : List Call}
    (h : Explained start calls (run call start calls)) {handler : Config}
    {timebases : LoopId → Timebase} {memory : Memory}
    (hafresh : ArmsAfresh (run call start calls) (.process handler timebases memory)) :
    Explained start (calls ++ [.process handler timebases memory])
      ((run call start calls).process handler timebases memory).1 := by
  have hoperands := call_operands h.operands (.process handler timebases memory)
  by_cases harmed : (run call start calls).m_state = .Armed
  · cases herror : (run call start calls).m_encoder.m_error with
    | true =>
      have hactive : (run call start calls).m_state.active = true := by rw [harmed]; rfl
      refine ⟨hoperands, fun hlater => ?_, fun hlater => ?_⟩
      · rw [process_error hactive herror] at hlater
        cases hlater
      · rw [process_error hactive herror] at hlater
        cases hlater
    | false =>
      cases process_armed_step harmed herror h.operands handler timebases memory with
      | forced hforced hfired =>
        exact ⟨hoperands, fun hlater => absurd hlater hfired, fun hlater => absurd hlater hfired⟩
      | unchanged hmanual hstate hfetch hmanual' hprevious =>
        refine ⟨hoperands, fun _ hforced => ?_, fun _ htrue => ?_⟩
        · cases hmanual'.symm.trans hforced
        · cases hfetch.symm.trans (hafresh harmed hmanual (hprevious.symm.trans htrue))
      | found_false hmanual hstate hprevious =>
        refine ⟨hoperands, fun _ hforced => ?_, fun _ htrue => ?_⟩
        · cases hmanual.symm.trans hforced
        · cases hprevious.symm.trans htrue
      | found_true hmanual htrue hprevious hrising hheld =>
        refine ⟨hoperands, fun _ hforced => ?_, fun _ _ => h.found_true harmed htrue hrising⟩
        cases hmanual.symm.trans hforced
  · have hstate := process_not_armed harmed handler timebases memory
    exact ⟨hoperands, fun hlater => absurd hlater hstate, fun hlater => absurd hlater hstate⟩

/-- A call that leaves the datalogger as it is leaves its past too. -/
theorem Explained.same {start : DataLogger} {calls : List Call}
    (h : Explained start calls (run call start calls)) {c : Call}
    (hsame : (run call start calls).call c = run call start calls)
    (hholds : (run call start calls).m_state = .Armed → HoldsTrue (run call start calls) c) :
    Explained start (calls ++ [c]) ((run call start calls).call c) := by
  refine ⟨call_operands h.operands c, fun harmed hmanual => ?_, fun harmed hprevious => ?_⟩
  · have hbefore := h.forced (hsame ▸ harmed) (hsame ▸ hmanual)
    exact hbefore.snoc harmed
  · rw [hsame] at harmed hprevious ⊢
    exact (h.since harmed hprevious).snoc (hholds harmed)

theorem Explained.call {start : DataLogger} {calls : List Call}
    (h : Explained start calls (run call start calls)) {c : Call}
    (hafresh : ArmsAfresh (run DataLogger.call start calls) c) :
    Explained start (calls ++ [c]) ((run DataLogger.call start calls).call c) := by
  have hoperands := call_operands h.operands c
  have hquiet (hstate : ((run DataLogger.call start calls).call c).m_state ≠ .Armed) :
      Explained start (calls ++ [c]) ((run DataLogger.call start calls).call c) :=
    ⟨hoperands, fun hlater => absurd hlater hstate, fun hlater => absurd hlater hstate⟩
  cases c with
  | configure m_config handler timebase config_id =>
    apply hquiet
    obtain ⟨_, _, _, hstate⟩ := { run DataLogger.call start calls with
      m_config }.configure_cases handler timebase config_id
    change ({ run DataLogger.call start calls with m_config }.configure handler timebase
      config_id).m_state ≠ .Armed
    rcases hstate with ⟨hstate, _⟩ | ⟨hstate, _⟩
    · rw [hstate]
      exact State.noConfusion
    · rw [hstate]
      exact State.noConfusion
  | reset m_config => exact hquiet State.noConfusion
  | arm_trigger =>
    by_cases harms : (run DataLogger.call start calls).m_state = .Configured ∨
        (run DataLogger.call start calls).m_state = .AcquisitionCompleted ∨
        (run DataLogger.call start calls).m_state = .Triggered
    · obtain ⟨hprevious, hmanual⟩ := hafresh harms
      have harmed : (run DataLogger.call start calls).call .arm_trigger =
          { run DataLogger.call start calls with m_state := .Armed } := if_pos harms
      rw [harmed] at hoperands ⊢
      refine ⟨hoperands, fun _ hforced => ?_, fun _ htrue => ?_⟩
      · cases hmanual.symm.trans hforced
      · cases hprevious.symm.trans htrue
    · exact h.same (if_neg harms) fun harmed => harmed
  | disarm_trigger =>
    by_cases hdisarms : (run DataLogger.call start calls).m_state = .Armed ∨
        (run DataLogger.call start calls).m_state = .AcquisitionCompleted ∨
        (run DataLogger.call start calls).m_state = .Triggered
    · apply hquiet
      have hdisarmed : (run DataLogger.call start calls).call .disarm_trigger =
          { run DataLogger.call start calls with m_state := .Configured } := if_pos hdisarms
      rw [hdisarmed]
      exact State.noConfusion
    · exact h.same (if_neg hdisarms) fun harmed => harmed
  | force_trigger =>
    by_cases harmed : (run DataLogger.call start calls).m_state = .Armed
    · have hforced : (run DataLogger.call start calls).call .force_trigger =
          { run DataLogger.call start calls with m_manual_trigger := true } := if_pos harmed
      rw [hforced] at hoperands ⊢
      refine ⟨hoperands, fun _ _ => ?_, fun _ hprevious => ?_⟩
      · refine Once.last ⟨harmed, ?_⟩
        change ((run DataLogger.call start calls).call .force_trigger).m_state = .Armed
        rw [hforced]
        exact harmed
      · exact (h.since harmed hprevious).snoc harmed
    · exact h.same (if_neg harmed) fun hstate => hstate
  | process handler timebases memory => exact h.process hafresh

theorem initialized_explained {d : DataLogger} (hinit : Initialized d) : Explained d [] d := by
  obtain ⟨before, handler, buffer, size, trigger_callback, _, rfl⟩ := hinit
  exact ⟨Nat.zero_le _, fun harmed => State.noConfusion harmed,
    fun harmed => State.noConfusion harmed⟩

/-- The trigger is only found when it was forced since the datalogger was armed, or when the
condition has been true for the hold time since, in every run in which the datalogger is
armed afresh. -/
theorem trigger_due {start : DataLogger} (hinit : Initialized start) {calls : List Call}
    {c : Call} (hafresh : Along call ArmsAfresh start (calls ++ [c]))
    (hfires : Fires (run call start calls) c) : Due start calls c := by
  obtain ⟨hbefore, _⟩ := Along.append.mp hafresh
  have h : Explained start calls (run call start calls) :=
    run_invariant_past (initialized_explained hinit) (fun _ _ h hafresh => h.call hafresh) hbefore
  obtain ⟨harmed, hfired⟩ := hfires
  cases c with
  | configure m_config handler timebase config_id =>
    obtain ⟨_, _, _, hstate⟩ := { run call start calls with
      m_config }.configure_cases handler timebase config_id
    change ({ run call start calls with m_config }.configure handler timebase
        config_id).m_state = .Triggered ∨
      ({ run call start calls with m_config }.configure handler timebase
        config_id).m_state = .AcquisitionCompleted at hfired
    rcases hstate with ⟨hstate, _⟩ | ⟨hstate, _⟩ <;> simp [hstate] at hfired
  | reset m_config => rcases hfired with hstate | hstate <;> cases hstate
  | arm_trigger => simp [call, arm_trigger, harmed] at hfired
  | disarm_trigger => simp [call, disarm_trigger, harmed] at hfired
  | force_trigger => simp [call, force_trigger, harmed] at hfired
  | process handler timebases memory =>
    have hdone : ((run call start calls).process handler timebases memory).1.m_state ≠ .Armed := by
      change ((run call start calls).call (.process handler timebases memory)).m_state ≠ .Armed
      rcases hfired with hstate | hstate
      · rw [hstate]
        exact State.noConfusion
      · rw [hstate]
        exact State.noConfusion
    have herror : (run call start calls).m_encoder.m_error = false := by
      by_contra hbroken
      have hactive : (run call start calls).m_state.active = true := by rw [harmed]; rfl
      have hfailed : (run call start calls).call (.process handler timebases memory) =
          { run call start calls with m_state := .Error } :=
        congrArg Prod.fst (process_error hactive (Bool.eq_true_of_not_eq_false hbroken) _ _ _)
      rw [hfailed] at hfired
      rcases hfired with hstate | hstate <;> cases hstate
    cases process_armed_step harmed herror h.operands handler timebases memory with
    | forced hforced _ => exact .inl (h.forced harmed hforced)
    | unchanged _ hstate _ _ _ => exact absurd hstate hdone
    | found_false _ hstate _ => exact absurd hstate hdone
    | found_true _ htrue _ hrising hheld =>
      refine .inr ((h.found_true harmed htrue hrising).mono fun d c later _ hsince => ?_)
      obtain ⟨hfinds, htime, hholds⟩ := hsince
      refine ⟨hfinds, hholds, ?_⟩
      rw [htime]
      exact of_decide_eq_true (hheld hdone)

end DataLogger

end

section

attribute [local instance] host.platform

/-- The trigger is found after the condition was true for some time. -/
def held_configuration (hold_time_100ns : uint32_t) : Configuration :=
  { memory_configuration 1 0 0 1 with trigger := ⟨fun _ => host.operand, hold_time_100ns, 0, 0⟩ }

theorem trigger_due_of_hold_time :
    DataLogger.Due (small_datalogger 4)
      [configure (held_configuration 10), .arm_trigger, process_at 0] (process_at 10) :=
  DataLogger.trigger_due (small_datalogger_initialized (by decide)) (by decide +kernel)
    (by decide +kernel)

/-- The time from which the condition was true is kept when the datalogger is disarmed. -/
theorem trigger_of_previous_arming :
    ¬ ∀ (start : DataLogger) (calls : List DataLogger.Call) (c : DataLogger.Call),
      start.Initialized → (run DataLogger.call start calls).Fires c →
      DataLogger.Due start calls c := by
  intro hdue
  have hrun := hdue (small_datalogger 4)
    [configure (held_configuration 10), .arm_trigger, process_at 0, .disarm_trigger, .arm_trigger]
    (process_at 100) (small_datalogger_initialized (by decide)) (by decide +kernel)
  revert hrun
  decide +kernel

end

end scrutiny.datalogging
