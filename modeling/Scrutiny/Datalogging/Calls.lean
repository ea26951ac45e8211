import Scrutiny.Datalogging.Process
import Scrutiny.Datalogging.Ring
import Scrutiny.Foundation.Past

open foundation

namespace scrutiny.datalogging.DataLogger

variable [Platform]

/-- A call into the datalogger, with what its pointers lead to at that time. -/
inductive Call where
  | configure (m_config : Configuration) (handler : Config) (timebase : Option LoopId)
      (config_id : uint16_t)
  /-- A configuration may have been read in part before. -/
  | reset (m_config : Configuration)
  | arm_trigger
  | disarm_trigger
  | force_trigger
  | process (handler : Config) (timebases : LoopId → Timebase) (memory : Memory)

def call (self : DataLogger) : Call → DataLogger
  | .configure m_config handler timebase config_id =>
    { self with m_config }.configure handler timebase config_id
  | .reset m_config => { self with m_config }.reset
  | .arm_trigger => self.arm_trigger
  | .disarm_trigger => self.disarm_trigger
  | .force_trigger => self.force_trigger
  | .process handler timebases memory => (self.process handler timebases memory).1

/-- A datalogger right after its initialization, with any buffer, from whatever was there
before. -/
def Initialized (self : DataLogger) : Prop :=
  ∃ (before : DataLogger) (handler : Config) (buffer : Option ByteBuffer) (size : Nat)
    (trigger_callback : Option trigger_callback_t), size < 2 ^ Platform.buffer_size_bits ∧
      self = (before.init handler buffer size trigger_callback).1

/-- The states in which the datalogger logs. -/
def State.active : State → Bool
  | Configured | Armed | Triggered => true
  | Idle | AcquisitionCompleted | Error => false

theorem process_inactive {self : DataLogger} (hinactive : self.m_state.active = false)
    (handler : Config) (timebases : LoopId → Timebase) (memory : Memory) :
    self.process handler timebases memory = (self, memory) := by
  unfold process
  cases hstate : self.m_state with
  | Idle | AcquisitionCompleted | Error => rfl
  | Configured | Armed | Triggered => rw [hstate] at hinactive; cases hinactive

theorem process_error {self : DataLogger} (hactive : self.m_state.active = true)
    (herror : self.m_encoder.error = true) (handler : Config) (timebases : LoopId → Timebase)
    (memory : Memory) :
    self.process handler timebases memory = ({ self with m_state := .Error }, memory) := by
  unfold process
  cases hstate : self.m_state with
  | Idle | AcquisitionCompleted | Error => rw [hstate] at hactive; cases hactive
  | Configured | Armed | Triggered => simp only [herror, if_true]

theorem process_active {self : DataLogger} (hactive : self.m_state.active = true)
    (herror : self.m_encoder.error = false) (handler : Config) (timebases : LoopId → Timebase)
    (memory : Memory) :
    (self.process handler timebases memory).1 =
      (process_trigger (self.process_acquisition handler timebases memory).1 handler timebases
        (self.process_acquisition handler timebases memory).2).1.process_completion timebases := by
  unfold process
  cases hstate : self.m_state with
  | Idle | AcquisitionCompleted | Error => rw [hstate] at hactive; cases hactive
  | Configured | Armed | Triggered => simp only [herror, Bool.false_eq_true, if_false]

/-- A configuration is started with an empty ring, or refused. -/
theorem configure_cases (self : DataLogger) (handler : Config) (timebase : Option LoopId)
    (config_id : uint16_t) :
    (self.configure handler timebase config_id).m_buffer_size = self.m_buffer_size ∧
      (self.configure handler timebase config_id).m_manual_trigger = false ∧
      (self.configure handler timebase config_id).m_trigger.previous_val = false ∧
      ((self.configure handler timebase config_id).m_state = .Configured ∧
          (self.configure handler timebase config_id).m_encoder =
            (self.m_encoder.set_timebase timebase).reset handler self.m_config ∨
        (self.configure handler timebase config_id).m_state = .Error ∧
          (self.configure handler timebase config_id).m_encoder = self.m_encoder) := by
  unfold configure
  simp only
  split
  · exact ⟨rfl, rfl, rfl, .inl ⟨rfl, rfl⟩⟩
  · exact ⟨rfl, rfl, rfl, .inr ⟨rfl, rfl⟩⟩

/-- What looking for the trigger comes to. -/
inductive Looks (before after : DataLogger) (timebases : LoopId → Timebase) : Prop
  | ignored (hstate : before.m_state ≠ .Armed) (hsame : after = before)
  | waits (harmed : before.m_state = .Armed) (m_trigger : TriggerData)
      (ops_data : Nat → AnyValAndTypePair) (m_manual_trigger : Bool)
      (hafter : after = { before with
        m_trigger := m_trigger, ops_data := ops_data, m_manual_trigger := m_manual_trigger })
  | fires (harmed : before.m_state = .Armed) (m_trigger : TriggerData)
      (ops_data : Nat → AnyValAndTypePair) (m_manual_trigger : Bool)
      (hafter : after = { stamp_trigger_point { before with
          m_trigger := m_trigger
          ops_data := ops_data
          m_manual_trigger := m_manual_trigger } timebases with m_state := .Triggered })

theorem process_trigger_looks (self : DataLogger) (handler : Config)
    (timebases : LoopId → Timebase) (memory : Memory) :
    Looks self (self.process_trigger handler timebases memory).1 timebases := by
  unfold process_trigger
  split
  · rename_i harmed
    obtain ⟨m_trigger, ops_data, m_manual_trigger, hchecked⟩ :=
      self.check_trigger_frame handler timebases memory
    simp only
    split
    · rw [hchecked]
      exact .fires harmed m_trigger ops_data m_manual_trigger rfl
    · rw [hchecked]
      exact .waits harmed m_trigger ops_data m_manual_trigger rfl
  · rename_i hstate
    exact .ignored hstate rfl

/-- The next call of `process` logs an entry. -/
def logs_now (self : DataLogger) : Bool :=
  decide (self.m_decimation_counter + 1 ≥ self.m_config.decimation)

/-- What the acquisition does in a call of `process`. -/
theorem process_acquisition_eq (self : DataLogger) (handler : Config)
    (timebases : LoopId → Timebase) (memory : Memory) :
    (self.process_acquisition handler timebases memory).1 = { self with
      m_decimation_counter := if self.logs_now then 0 else self.m_decimation_counter + 1
      m_encoder :=
        if self.logs_now then
          (self.m_encoder.encode_next_entry handler self.m_config
            ((self.m_encoder.m_timebase.map timebases).getD ⟨0⟩) self.m_owner memory).1
        else self.m_encoder } := by
  unfold process_acquisition logs_now
  simp only [decide_eq_true_eq]
  split <;> rfl

/-- What a call of `process` comes to. -/
inductive Processed (before after : DataLogger) (handler : Config) (timebases : LoopId → Timebase)
    (memory : Memory) : Prop
  | inactive (hinactive : before.m_state.active = false) (hsame : after = before)
  | error (hactive : before.m_state.active = true) (herror : before.m_encoder.m_error = true)
      (hafter : after = { before with m_state := .Error })
  | active (hactive : before.m_state.active = true) (herror : before.m_encoder.m_error = false)
      (acquired looked : DataLogger)
      (hacquired : acquired = { before with
        m_decimation_counter := if before.logs_now then 0 else before.m_decimation_counter + 1
        m_encoder :=
          if before.logs_now then
            (before.m_encoder.encode_next_entry handler before.m_config
              ((before.m_encoder.m_timebase.map timebases).getD ⟨0⟩) before.m_owner memory).1
          else before.m_encoder })
      (hlooks : Looks acquired looked timebases)
      (hafter : after = looked.process_completion timebases)

theorem process_processed (d : DataLogger) (handler : Config) (timebases : LoopId → Timebase)
    (memory : Memory) :
    Processed d (d.process handler timebases memory).1 handler timebases memory := by
  cases hactive : d.m_state.active with
  | false =>
    rw [process_inactive hactive]
    exact .inactive hactive rfl
  | true =>
    cases herror : d.m_encoder.m_error with
    | true =>
      rw [process_error hactive herror]
      exact .error hactive herror rfl
    | false =>
      rw [process_active hactive herror]
      exact .active hactive herror _ _ (d.process_acquisition_eq handler timebases memory)
        (process_trigger_looks _ handler timebases _) rfl

/-- A call of `process` logs an entry or not, and may start counting the entries again. -/
theorem process_encoder (d : DataLogger) (handler : Config) (timebases : LoopId → Timebase)
    (memory : Memory) :
    ∃ acquired, (acquired = d.m_encoder ∨ ∃ timebase, acquired =
        (d.m_encoder.encode_next_entry handler d.m_config timebase d.m_owner memory).1) ∧
      ((d.process handler timebases memory).1.m_encoder = acquired ∨
        (d.process handler timebases memory).1.m_encoder = acquired.reset_write_counter) := by
  cases d.process_processed handler timebases memory with
  | inactive hinactive hsame =>
    rw [hsame]
    exact ⟨_, .inl rfl, .inl rfl⟩
  | error hactive herror hafter =>
    rw [hafter]
    exact ⟨_, .inl rfl, .inl rfl⟩
  | active hactive herror acquired looked hacquired hlooks hafter =>
    have hcompletion : (looked.process_completion timebases).m_encoder = looked.m_encoder := by
      unfold process_completion
      split <;> rfl
    rw [hafter, hcompletion]
    refine ⟨acquired.m_encoder, ?_, ?_⟩
    · rw [hacquired]
      simp only
      split
      · exact .inr ⟨_, rfl⟩
      · exact .inl rfl
    · cases hlooks with
      | ignored hstate hsame => exact .inl (congrArg m_encoder hsame)
      | waits harmed m_trigger ops_data m_manual_trigger hwaits =>
        rw [hwaits]
        exact .inl rfl
      | fires harmed m_trigger ops_data m_manual_trigger hfires =>
        rw [hfires]
        exact .inr rfl

/-- Without an error of the encoder, the state changes when the trigger fires and when the
acquisition ends. -/
theorem process_state {d : DataLogger} (herror : d.m_encoder.error = false) (handler : Config)
    (timebases : LoopId → Timebase) (memory : Memory) :
    let after := (d.process handler timebases memory).1.m_state
    after = d.m_state ∨ d.m_state = .Armed ∧ (after = .Triggered ∨ after = .AcquisitionCompleted) ∨
      d.m_state = .Triggered ∧ after = .AcquisitionCompleted := by
  cases hactive : d.m_state.active with
  | false =>
    rw [process_inactive hactive]
    exact .inl rfl
  | true =>
    have hacquired := (d.process_acquisition_runs handler timebases memory).2
    have htrigger := (process_trigger_runs (d.process_acquisition handler timebases memory).1
      handler timebases (d.process_acquisition handler timebases memory).2).2
    have hcompletion := (process_completion_runs
      (process_trigger (d.process_acquisition handler timebases memory).1 handler timebases
        (d.process_acquisition handler timebases memory).2).1 timebases).2
    rw [hacquired] at htrigger
    rw [process_active hactive herror]
    rcases htrigger with hwaits | ⟨harmed, hfires⟩
    · rw [hwaits] at hcompletion
      rcases hcompletion with hsame | ⟨htriggered, hcompleted⟩
      · exact .inl hsame
      · exact .inr (.inr ⟨htriggered, hcompleted⟩)
    · rw [hfires] at hcompletion
      exact .inr (.inl ⟨harmed, hcompletion.imp id And.right⟩)

/-- A property that whatever the datalogger does with its encoder preserves. -/
structure EncoderInvariant (P : RawFormatEncoder → Prop) : Prop where
  reset : ∀ encoder timebase handler config, P encoder →
    P ((encoder.set_timebase timebase).reset handler config)
  encode : ∀ encoder handler config timebase caller memory, P encoder →
    P (encoder.encode_next_entry handler config timebase caller memory).1
  reset_write_counter : ∀ encoder, P encoder → P encoder.reset_write_counter

namespace EncoderInvariant

variable {P : RawFormatEncoder → Prop}

theorem process (hP : EncoderInvariant P) {d : DataLogger} (h : P d.m_encoder) (handler : Config)
    (timebases : LoopId → Timebase) (memory : Memory) :
    P (d.process handler timebases memory).1.m_encoder := by
  obtain ⟨acquired, hacquired, hencoder⟩ := d.process_encoder handler timebases memory
  have hlogged : P acquired := by
    rcases hacquired with rfl | ⟨timebase, rfl⟩
    · exact h
    · exact hP.encode _ _ _ _ _ _ h
  rcases hencoder with hsame | hcounted
  · rw [hsame]
    exact hlogged
  · rw [hcounted]
    exact hP.reset_write_counter _ hlogged

theorem configure (hP : EncoderInvariant P) {d : DataLogger} (h : P d.m_encoder)
    (handler : Config) (timebase : Option LoopId) (config_id : uint16_t) :
    P (d.configure handler timebase config_id).m_encoder := by
  obtain ⟨_, _, _, hstate⟩ := d.configure_cases handler timebase config_id
  rcases hstate with ⟨_, hencoder⟩ | ⟨_, hencoder⟩
  · rw [hencoder]
    exact hP.reset _ _ _ _ h
  · rw [hencoder]
    exact h

theorem call (hP : EncoderInvariant P) {d : DataLogger} (h : P d.m_encoder) (c : Call) :
    P (d.call c).m_encoder := by
  cases c with
  | configure m_config handler timebase config_id =>
    have hconfigured : P ({ d with m_config } : DataLogger).m_encoder := h
    exact hP.configure hconfigured handler timebase config_id
  | reset m_config => exact h
  | arm_trigger =>
    rw [DataLogger.call, arm_trigger]
    split <;> exact h
  | disarm_trigger =>
    rw [DataLogger.call, disarm_trigger]
    split <;> exact h
  | force_trigger =>
    rw [DataLogger.call, force_trigger]
    split <;> exact h
  | process handler timebases memory => exact hP.process h handler timebases memory

end EncoderInvariant

theorem sound_invariant : EncoderInvariant RawFormatEncoder.Sound where
  reset encoder timebase handler config h :=
    @RawFormatEncoder.reset_sound _ (encoder.set_timebase timebase) h.size_lt handler config
  encode _ handler config timebase caller memory h :=
    h.encode_next_entry handler config timebase caller memory
  reset_write_counter _ h := h.reset_write_counter

/-- The ring is sound in every run. -/
theorem run_encoder_sound {d : DataLogger} (hinit : Initialized d) (calls : List Call) :
    (run call d calls).m_encoder.Sound := by
  have hsound : d.m_encoder.Sound := by
    obtain ⟨before, handler, buffer, size, trigger_callback, hsize, rfl⟩ := hinit
    exact RawFormatEncoder.reset_sound hsize handler before.m_config
  have hstep : ∀ (d : DataLogger) (c : Call), d.m_encoder.Sound → (d.call c).m_encoder.Sound :=
    fun _ c h => sound_invariant.call h c
  exact (always_of_step hstep hsound calls).last

theorem buffer_size_invariant (size : Nat) :
    EncoderInvariant fun encoder => encoder.m_buffer_size = size where
  reset encoder timebase handler config h := by
    rw [RawFormatEncoder.reset_buffer_size]
    exact h
  encode encoder handler config timebase caller memory h := by
    rw [RawFormatEncoder.encode_next_entry_buffer_size]
    exact h
  reset_write_counter _ h := h

theorem call_buffer_size (d : DataLogger) (c : Call) :
    (d.call c).m_buffer_size = d.m_buffer_size := by
  cases c with
  | configure m_config handler timebase config_id =>
    exact ({ d with m_config }.configure_cases handler timebase config_id).1
  | reset m_config => rfl
  | arm_trigger =>
    rw [call, arm_trigger]
    split <;> rfl
  | disarm_trigger =>
    rw [call, disarm_trigger]
    split <;> rfl
  | force_trigger =>
    rw [call, force_trigger]
    split <;> rfl
  | process handler timebases memory =>
    change (d.process handler timebases memory).1.m_buffer_size = d.m_buffer_size
    cases d.process_processed handler timebases memory with
    | inactive hinactive hsame => rw [hsame]
    | error hactive herror hafter => rw [hafter]
    | active hactive herror acquired looked hacquired hlooks hafter =>
      have hcompletion : (looked.process_completion timebases).m_buffer_size =
          looked.m_buffer_size := by
        unfold process_completion
        split <;> rfl
      rw [hafter, hcompletion]
      cases hlooks with
      | ignored hstate hsame => rw [hsame, hacquired]
      | waits harmed m_trigger ops_data m_manual_trigger hwaits => rw [hwaits, hacquired]
      | fires harmed m_trigger ops_data m_manual_trigger hfires => rw [hfires, hacquired]; rfl

/-- The datalogger and its encoder agree on the size of the buffer. -/
theorem run_buffer_size {d : DataLogger} (hinit : Initialized d) (calls : List Call) :
    (run call d calls).m_buffer_size = (run call d calls).m_encoder.m_buffer_size := by
  have hstart : d.m_buffer_size = d.m_encoder.m_buffer_size := by
    obtain ⟨before, handler, buffer, size, trigger_callback, hsize, rfl⟩ := hinit
    simp only [init, reset, RawFormatEncoder.init, RawFormatEncoder.reset_buffer_size]
  have hstep : ∀ (d : DataLogger) (c : Call), d.m_buffer_size = d.m_encoder.m_buffer_size →
      (d.call c).m_buffer_size = (d.call c).m_encoder.m_buffer_size := by
    intro d c h
    rw [call_buffer_size, h]
    exact ((buffer_size_invariant d.m_encoder.m_buffer_size).call rfl c).symm
  exact (always_of_step hstep hstart calls).last

end scrutiny.datalogging.DataLogger
