import Scrutiny.Datalogging.DataLogger

open foundation

namespace scrutiny.datalogging

variable [Platform]

/-- What the datalogger keeps when it runs. -/
structure DataLogger.Runs (before after : DataLogger) : Prop where
  owner : after.m_owner = before.m_owner
  config : after.m_config = before.m_config
  timebase : after.m_timebase = before.m_timebase
  trigger_callback : after.m_trigger_callback = before.m_trigger_callback

namespace DataLogger

omit [Platform] in
theorem Runs.refl (self : DataLogger) : Runs self self := ⟨rfl, rfl, rfl, rfl⟩

omit [Platform] in
theorem Runs.trans {first second third : DataLogger} (h : Runs first second)
    (h' : Runs second third) : Runs first third where
  owner := h'.owner.trans h.owner
  config := h'.config.trans h.config
  timebase := h'.timebase.trans h.timebase
  trigger_callback := h'.trigger_callback.trans h.trigger_callback

theorem process_acquisition_runs (self : DataLogger) (handler : Config)
    (timebases : LoopId → Timebase) (memory : Memory) :
    Runs self (self.process_acquisition handler timebases memory).1 ∧
      (self.process_acquisition handler timebases memory).1.m_state = self.m_state := by
  unfold process_acquisition
  simp only
  split <;> exact ⟨⟨rfl, rfl, rfl, rfl⟩, rfl⟩

/-- Looking for the trigger touches neither the state nor the data acquired. -/
theorem fetch_operands_frame (handler : Config) (n i : Nat) (self : DataLogger) (memory : Memory) :
    ∃ ops_data, (fetch_operands handler n i self memory).1.2 =
      { self with ops_data := ops_data } := by
  induction n generalizing i self memory with
  | zero => exact ⟨self.ops_data, rfl⟩
  | succ n ih =>
    unfold fetch_operands
    simp only
    split
    · exact ⟨_, rfl⟩
    · obtain ⟨ops_data, hrest⟩ := ih (i + 1) _ _
      exact ⟨ops_data, hrest⟩

theorem check_trigger_frame (self : DataLogger) (handler : Config)
    (timebases : LoopId → Timebase) (memory : Memory) :
    ∃ m_trigger ops_data m_manual_trigger,
      (self.check_trigger handler timebases memory).1.2 = { self with
        m_trigger := m_trigger
        ops_data := ops_data
        m_manual_trigger := m_manual_trigger } := by
  unfold check_trigger
  simp only
  split
  · exact ⟨_, _, _, rfl⟩
  · split
    · exact ⟨_, _, _, rfl⟩
    · split
      · exact ⟨_, _, _, rfl⟩
      · obtain ⟨ops_data, hfetched⟩ := fetch_operands_frame handler
          self.m_trigger.active_condition.operand_count.toNat 0 self memory
        split
        · exact ⟨_, ops_data, _, hfetched⟩
        · rw [evaluate_condition, hfetched]
          exact ⟨_, _, _, rfl⟩

/-- An armed datalogger stays armed or triggers; another one is left alone. -/
theorem process_trigger_runs (self : DataLogger) (handler : Config)
    (timebases : LoopId → Timebase) (memory : Memory) :
    Runs self (self.process_trigger handler timebases memory).1 ∧
      ((self.process_trigger handler timebases memory).1.m_state = self.m_state ∨
        self.m_state = .Armed ∧
          (self.process_trigger handler timebases memory).1.m_state = .Triggered) := by
  unfold process_trigger
  split
  · rename_i harmed
    obtain ⟨m_trigger, ops_data, m_manual_trigger, hchecked⟩ :=
      self.check_trigger_frame handler timebases memory
    simp only
    split
    · rw [hchecked]
      exact ⟨⟨rfl, rfl, rfl, rfl⟩, .inr ⟨harmed, rfl⟩⟩
    · rw [hchecked]
      exact ⟨⟨rfl, rfl, rfl, rfl⟩, .inl rfl⟩
  · exact ⟨Runs.refl self, .inl rfl⟩

theorem process_completion_runs (self : DataLogger) (timebases : LoopId → Timebase) :
    Runs self (self.process_completion timebases) ∧
      ((self.process_completion timebases).m_state = self.m_state ∨
        self.m_state = .Triggered ∧
          (self.process_completion timebases).m_state = .AcquisitionCompleted) := by
  unfold process_completion
  split
  · rename_i hcompleted
    exact ⟨⟨rfl, rfl, rfl, rfl⟩, .inr ⟨hcompleted.1, rfl⟩⟩
  · exact ⟨Runs.refl self, .inl rfl⟩

theorem process_runs (self : DataLogger) (handler : Config) (timebases : LoopId → Timebase)
    (memory : Memory) : Runs self (self.process handler timebases memory).1 := by
  unfold process
  split
  · exact Runs.refl self
  · exact Runs.refl self
  · exact Runs.refl self
  all_goals
    split
    · exact ⟨rfl, rfl, rfl, rfl⟩
    · apply Runs.trans _ (process_completion_runs _ timebases).1
      exact (self.process_acquisition_runs handler timebases memory).1.trans
        (process_trigger_runs _ handler timebases _).1

omit [Platform] in
@[simp] theorem arm_trigger_owner (self : DataLogger) : self.arm_trigger.m_owner = self.m_owner := by
  unfold arm_trigger
  split <;> rfl

omit [Platform] in
@[simp] theorem disarm_trigger_owner (self : DataLogger) :
    self.disarm_trigger.m_owner = self.m_owner := by
  unfold disarm_trigger
  split <;> rfl

omit [Platform] in
@[simp] theorem arm_trigger_encoder (self : DataLogger) :
    self.arm_trigger.m_encoder = self.m_encoder := by
  unfold arm_trigger
  split <;> rfl

omit [Platform] in
@[simp] theorem disarm_trigger_encoder (self : DataLogger) :
    self.disarm_trigger.m_encoder = self.m_encoder := by
  unfold disarm_trigger
  split <;> rfl

@[simp] theorem configure_owner (self : DataLogger) (handler : Config) (timebase : Option LoopId)
    (config_id : uint16_t) :
    (self.configure handler timebase config_id).m_owner = self.m_owner := by
  unfold configure
  simp only
  split <;> rfl

end DataLogger

end scrutiny.datalogging
