import Scrutiny.Datalogging.Calls
import Scrutiny.Foundation.Past
import Scrutiny.Host

open foundation

namespace scrutiny.datalogging

section

variable [Platform]

namespace RawFormatEncoder

variable {self : RawFormatEncoder}

/-- An entry that was just written counts. -/
theorem encode_next_entry_count_pos (h : self.Sound) (herror : self.m_error = false)
    (handler : Config) (config : Configuration) (timebase : Timebase) (caller : Option LoopId)
    (memory : Memory) :
    0 < (self.encode_next_entry handler config timebase caller memory).1.get_entry_count := by
  have hring := h.ring herror
  obtain ⟨m_buffer, hcursors⟩ :=
    encode_next_entry_cursors h herror handler config timebase caller memory
  rw [hcursors, get_entry_count]
  by_cases hlast : self.m_next_entry_write_index + 1 = self.m_max_entries
  · simp only [hlast, decide_true, Bool.or_true, if_true]
    exact hring.max_entries_pos
  · simp only [hlast, decide_false, Bool.or_false, next_index, if_false]
    split
    · exact hring.max_entries_pos
    · exact Nat.succ_pos _

/-- The entries written since the counter was put to zero are in the ring. -/
theorem Sound.counter_le_count (h : self.Sound)
    (hcounter : self.m_entry_write_counter ≤ self.m_max_entries) :
    self.m_entry_write_counter ≤ self.get_entry_count := by
  rw [get_entry_count]
  split
  · exact hcounter
  · rename_i hroom
    exact h.counter (Bool.eq_false_of_not_eq_true hroom)

/-- Something was written if bytes were, unless the ring was full before. -/
theorem Sound.count_pos_of_written (h : self.Sound) (herror : self.m_error = false)
    (hwritten : self.m_full = true ∨ 0 < self.get_data_write_counter) :
    0 < self.get_entry_count := by
  rw [get_entry_count]
  rcases hwritten with hfull | hbytes
  · rw [if_pos hfull]
    exact (h.ring herror).max_entries_pos
  · split
    · exact (h.ring herror).max_entries_pos
    · rename_i hroom
      have hcounter := h.counter (Bool.eq_false_of_not_eq_true hroom)
      have hpos : 0 < self.m_entry_write_counter := by
        by_contra hnone
        have hzero : self.m_entry_write_counter = 0 := by omega
        simp [get_data_write_counter, hzero, buffer_size] at hbytes
      omega

end RawFormatEncoder

namespace DataLogger

/-- The timeout of the acquisition has run out. -/
def timed_out (self : DataLogger) (timebases : LoopId → Timebase) : Bool :=
  decide (self.m_config.timeout_100ns > 0) &&
    (self.timebase timebases).has_expired self.m_trigger_timestamp self.m_config.timeout_100ns

/-- The trigger lies in the acquisition, which is not empty. -/
def PositionInside (self : DataLogger) : Prop :=
  self.m_state = .AcquisitionCompleted →
    1 ≤ self.m_encoder.get_entry_count ∧
      self.log_points_after_trigger ≤ self.m_encoder.get_entry_count

/-- The acquisition is neither ended by the timeout before its first entry, nor goes on once
the ring was written all over since the trigger. -/
def EndsInTime (self : DataLogger) : Call → Prop
  | .process _ timebases _ => self.m_state = .Triggered →
      (self.timed_out timebases = true →
        0 < self.m_encoder.get_entry_count ∨ self.logs_now = true) ∧
      (self.m_encoder.get_entry_write_counter = self.m_encoder.m_max_entries →
        self.logs_now = false)
  | _ => True

instance (self : DataLogger) : Decidable self.PositionInside :=
  inferInstanceAs (Decidable (_ → _))

instance (self : DataLogger) (call : Call) : Decidable (self.EndsInTime call) :=
  match call with
  | .process _ timebases _ => inferInstanceAs (Decidable (self.m_state = .Triggered →
      (self.timed_out timebases = true →
        0 < self.m_encoder.get_entry_count ∨ self.logs_now = true) ∧
      (self.m_encoder.get_entry_write_counter = self.m_encoder.m_max_entries →
        self.logs_now = false)))
  | .configure _ _ _ _ | .reset _ | .arm_trigger | .disarm_trigger | .force_trigger =>
    inferInstanceAs (Decidable True)

/-- What holds of a datalogger whose acquisitions end in time. -/
structure Positioned (d : DataLogger) : Prop where
  encoder : d.m_encoder.Sound
  size : d.m_buffer_size = d.m_encoder.m_buffer_size
  to_write : d.m_state = .Triggered → d.m_encoder.m_full = true ∨ 0 < d.m_remaining_data_to_write
  written : d.m_state = .Triggered → d.m_encoder.m_entry_write_counter ≤ d.m_encoder.m_max_entries
  inside : PositionInside d

/-- The encoder after the acquisition of a call that is guarded. -/
theorem process_acquisition_positioned {d : DataLogger} (h : Positioned d)
    (herror : d.m_encoder.m_error = false) {handler : Config} {timebases : LoopId → Timebase}
    {memory : Memory} (hends : EndsInTime d (.process handler timebases memory)) :
    let acquired := (d.process_acquisition handler timebases memory).1
    acquired.m_encoder.Sound ∧ acquired.m_encoder.m_error = false ∧
      acquired.m_encoder.m_buffer_size = d.m_encoder.m_buffer_size ∧
      (d.m_encoder.m_full = true → acquired.m_encoder.m_full = true) ∧
      (d.m_state = .Triggered →
        acquired.m_encoder.m_entry_write_counter ≤ acquired.m_encoder.m_max_entries) ∧
      (d.m_state = .Triggered → d.timed_out timebases = true →
        0 < acquired.m_encoder.get_entry_count) := by
  have hacquired := d.process_acquisition_eq handler timebases memory
  simp only [hacquired]
  cases hlogs : d.logs_now with
  | false =>
    simp only [Bool.false_eq_true, if_false]
    refine ⟨h.encoder, herror, trivial, fun hfull => hfull, h.written, fun htriggered htimeout => ?_⟩
    rcases (hends htriggered).1 htimeout with hpos | hlogged
    · exact hpos
    · cases hlogs.symm.trans hlogged
  | true =>
    have hring := h.encoder.ring herror
    have hmax := hring.max_entries_lt h.encoder.size_lt
    have hsound := h.encoder.encode_next_entry handler d.m_config
      ((d.m_encoder.m_timebase.map timebases).getD ⟨0⟩) d.m_owner memory
    have hcount := RawFormatEncoder.encode_next_entry_count_pos h.encoder herror handler d.m_config
      ((d.m_encoder.m_timebase.map timebases).getD ⟨0⟩) d.m_owner memory
    obtain ⟨m_buffer, hcursors⟩ := RawFormatEncoder.encode_next_entry_cursors h.encoder herror
      handler d.m_config ((d.m_encoder.m_timebase.map timebases).getD ⟨0⟩) d.m_owner memory
    simp only [if_true]
    refine ⟨hsound, ?_, ?_, fun hfull => ?_, fun htriggered => ?_, fun _ _ => hcount⟩
    · rw [hcursors]
      exact herror
    · rw [hcursors]
    · rw [hcursors, hfull]
      rfl
    · have hwritten := h.written htriggered
      have hroom : d.m_encoder.m_entry_write_counter ≠ d.m_encoder.m_max_entries := by
        intro hall
        cases hlogs.symm.trans ((hends htriggered).2 hall)
      rw [hcursors]
      simp only
      rw [buffer_size_of_lt (by omega)]
      omega

/-- The end of an acquisition that is in time. -/
theorem process_completion_positioned {d : DataLogger} (h : Positioned d)
    {timebases : LoopId → Timebase}
    (hcount : d.m_state = .Triggered → d.acquisition_completed timebases = true →
      0 < d.m_encoder.get_entry_count) : Positioned (d.process_completion timebases) := by
  unfold process_completion
  split
  · rename_i hcompleted
    refine ⟨h.encoder, h.size, fun htriggered => ?_, fun htriggered => ?_, fun _ => ⟨?_, ?_⟩⟩
    · cases htriggered
    · cases htriggered
    · exact hcount hcompleted.1 hcompleted.2
    · exact h.encoder.counter_le_count (h.written hcompleted.1)
  · exact h

/-- A trigger leaves something to write, unless the ring is full. -/
theorem stamp_trigger_point_to_write {d : DataLogger} (hsound : d.m_encoder.Sound)
    (herror : d.m_encoder.m_error = false) (hsize : d.m_buffer_size = d.m_encoder.m_buffer_size)
    (timebases : LoopId → Timebase) :
    (d.stamp_trigger_point timebases).m_encoder.m_full = true ∨
      0 < (d.stamp_trigger_point timebases).m_remaining_data_to_write := by
  have hring := hsound.reset_write_counter.ring herror
  cases hfull : d.m_encoder.m_full with
  | true => exact .inl hfull
  | false =>
    have hremaining := hring.remaining_pos hsound.size_lt hfull
    have hpos : 0 < d.m_buffer_size := by
      have hfits := hring.fits
      have hentry := Nat.mul_pos hring.max_entries_pos hring.entry_size_pos
      rw [hsize]
      exact hentry.trans_le hfits
    have hroom : d.m_encoder.reset_write_counter.buffer_full = false := hfull
    refine .inr ?_
    simp only [stamp_trigger_point, hroom, Bool.not_false, if_true]
    split
    · exact hpos
    · exact hremaining.trans_le (Nat.le_max_right _ _)

omit [Platform] in
theorem has_expired_now (timebase : Timebase) {timeout_100ns : timediff_t}
    (hpos : timeout_100ns > 0) :
    timebase.has_expired timebase.get_timestamp timeout_100ns = false := by
  rw [Timebase.has_expired, Timebase.elapsed_since, Timebase.get_timestamp, BitVec.sub_self]
  exact decide_eq_false (by bv_omega)

/-- An acquisition that is completed is not empty. -/
theorem count_pos_of_completed {d : DataLogger} (hsound : d.m_encoder.Sound)
    (herror : d.m_encoder.m_error = false)
    (hto_write : d.m_encoder.m_full = true ∨ 0 < d.m_remaining_data_to_write)
    {timebases : LoopId → Timebase}
    (htimeout : d.timed_out timebases = true → 0 < d.m_encoder.get_entry_count)
    (htriggered : d.m_state = .Triggered)
    (hcompleted : d.acquisition_completed timebases = true) : 0 < d.m_encoder.get_entry_count := by
  unfold acquisition_completed at hcompleted
  rw [if_neg (by simp [htriggered]), if_pos htriggered, Bool.or_eq_true] at hcompleted
  rcases hcompleted with htimed | hwritten
  · exact htimeout htimed
  · refine hsound.count_pos_of_written herror (hto_write.imp_right fun hpos => ?_)
    exact hpos.trans_le (of_decide_eq_true hwritten)

/-- A trigger starts an acquisition that ends in this call only when the ring is full. -/
theorem stamp_trigger_point_positioned {d : DataLogger} (hsound : d.m_encoder.Sound)
    (herror : d.m_encoder.m_error = false) (hsize : d.m_buffer_size = d.m_encoder.m_buffer_size)
    (timebases : LoopId → Timebase) :
    let triggered := { d.stamp_trigger_point timebases with m_state := .Triggered }
    Positioned triggered ∧ (triggered.acquisition_completed timebases = true →
      0 < triggered.m_encoder.get_entry_count) := by
  have hto_write := stamp_trigger_point_to_write hsound herror hsize timebases
  refine ⟨⟨hsound.reset_write_counter, hsize, fun _ => hto_write, fun _ => Nat.zero_le _,
    fun hcompleted => State.noConfusion hcompleted⟩, fun hcompleted => ?_⟩
  refine count_pos_of_completed hsound.reset_write_counter herror hto_write (fun htimed => ?_)
    rfl hcompleted
  obtain ⟨hpos, hexpired⟩ := Bool.and_eq_true_iff.mp htimed
  have hnow := has_expired_now (d.timebase timebases) (of_decide_eq_true hpos)
  cases hnow.symm.trans hexpired

theorem process_positioned {d : DataLogger} (h : Positioned d) {handler : Config}
    {timebases : LoopId → Timebase} {memory : Memory}
    (hends : EndsInTime d (.process handler timebases memory)) :
    Positioned (d.process handler timebases memory).1 := by
  cases hactive : d.m_state.active with
  | false =>
    rw [process_inactive hactive]
    exact h
  | true =>
    cases herror : d.m_encoder.m_error with
    | true =>
      rw [process_error hactive herror]
      exact ⟨h.encoder, h.size, fun htriggered => State.noConfusion htriggered,
        fun htriggered => State.noConfusion htriggered,
        fun hcompleted => State.noConfusion hcompleted⟩
    | false =>
      obtain ⟨hsound, hno_error, hsize, hfull, hwritten, htimeout⟩ :=
        process_acquisition_positioned h herror hends
      have hacquired := d.process_acquisition_eq handler timebases memory
      rw [process_active hactive herror]
      have hlooks := process_trigger_looks (d.process_acquisition handler timebases memory).1
        handler timebases (d.process_acquisition handler timebases memory).2
      generalize (process_trigger (d.process_acquisition handler timebases memory).1 handler
        timebases (d.process_acquisition handler timebases memory).2).1 = looked at hlooks ⊢
      generalize (d.process_acquisition handler timebases memory).1 = acquired at *
      have hstate : acquired.m_state = d.m_state := by rw [hacquired]
      have hbuffer : acquired.m_buffer_size = acquired.m_encoder.m_buffer_size := by
        rw [hsize, ← h.size, hacquired]
      cases hlooks with
      | ignored hidle hsame =>
        have hto_write : acquired.m_state = .Triggered →
            acquired.m_encoder.m_full = true ∨ 0 < acquired.m_remaining_data_to_write := by
          intro htriggered
          rw [hstate] at htriggered
          refine (h.to_write htriggered).imp hfull fun hpos => ?_
          rw [hacquired]
          exact hpos
        rw [hsame]
        refine process_completion_positioned ⟨hsound, hbuffer, hto_write, fun htriggered => ?_,
          fun hcompleted => ?_⟩ fun htriggered hcompleted => ?_
        · exact hwritten (hstate.symm.trans htriggered)
        · rw [hstate] at hcompleted
          rw [hcompleted] at hactive
          cases hactive
        · refine count_pos_of_completed hsound hno_error (hto_write htriggered) (fun htimed => ?_)
            htriggered hcompleted
          apply htimeout (hstate.symm.trans htriggered)
          rw [hacquired] at htimed
          exact htimed
      | waits harmed m_trigger ops_data m_manual_trigger hafter =>
        have hwaits : looked.m_state = .Armed := by rw [hafter, harmed]
        refine process_completion_positioned ⟨?_, ?_, fun htriggered => ?_, fun htriggered => ?_,
          fun hcompleted => ?_⟩ fun htriggered => ?_
        · rw [hafter]
          exact hsound
        · rw [hafter]
          exact hbuffer
        · cases hwaits.symm.trans htriggered
        · cases hwaits.symm.trans htriggered
        · cases hwaits.symm.trans hcompleted
        · cases hwaits.symm.trans htriggered
      | fires harmed m_trigger ops_data m_manual_trigger hafter =>
        have hstamped := stamp_trigger_point_positioned
          (show ({ acquired with m_trigger, ops_data, m_manual_trigger } :
            DataLogger).m_encoder.Sound from hsound) hno_error hbuffer timebases
        rw [hafter]
        exact process_completion_positioned hstamped.1 fun _ => hstamped.2

theorem call_positioned {d : DataLogger} {call : Call} (h : Positioned d)
    (hends : EndsInTime d call) : Positioned (d.call call) := by
  have hquiet {after : DataLogger} (hencoder : after.m_encoder.Sound)
      (hsize : after.m_buffer_size = after.m_encoder.m_buffer_size)
      (htriggered : after.m_state ≠ .Triggered) (hcompleted : after.m_state ≠ .AcquisitionCompleted) :
      Positioned after :=
    ⟨hencoder, hsize, fun hstate => absurd hstate htriggered,
      fun hstate => absurd hstate htriggered, fun hstate => absurd hstate hcompleted⟩
  cases call with
  | configure m_config handler timebase config_id =>
    obtain ⟨hsize, _, _, hstate⟩ := { d with m_config }.configure_cases handler timebase config_id
    change Positioned ({ d with m_config }.configure handler timebase config_id)
    rcases hstate with ⟨hstate, hencoder⟩ | ⟨hstate, hencoder⟩
    · apply hquiet
      · rw [hencoder]
        apply RawFormatEncoder.reset_sound
        exact h.encoder.size_lt
      · rw [hsize, hencoder, RawFormatEncoder.reset_buffer_size]
        exact h.size
      · rw [hstate]
        exact State.noConfusion
      · rw [hstate]
        exact State.noConfusion
    · apply hquiet
      · rw [hencoder]
        exact h.encoder
      · rw [hsize, hencoder]
        exact h.size
      · rw [hstate]
        exact State.noConfusion
      · rw [hstate]
        exact State.noConfusion
  | reset m_config => exact hquiet h.encoder h.size State.noConfusion State.noConfusion
  | arm_trigger =>
    change Positioned d.arm_trigger
    unfold arm_trigger
    split
    · exact hquiet h.encoder h.size State.noConfusion State.noConfusion
    · exact h
  | disarm_trigger =>
    change Positioned d.disarm_trigger
    unfold disarm_trigger
    split
    · exact hquiet h.encoder h.size State.noConfusion State.noConfusion
    · exact h
  | force_trigger =>
    change Positioned d.force_trigger
    unfold force_trigger
    split
    · exact ⟨h.encoder, h.size, h.to_write, h.written, h.inside⟩
    · exact h
  | process handler timebases memory => exact process_positioned h hends

theorem initialized_positioned {d : DataLogger} (hinit : Initialized d) : Positioned d := by
  obtain ⟨before, handler, buffer, size, trigger_callback, hsize, rfl⟩ := hinit
  refine ⟨?_, ?_, fun htriggered => State.noConfusion htriggered,
    fun htriggered => State.noConfusion htriggered, fun hcompleted => State.noConfusion hcompleted⟩
  · exact RawFormatEncoder.reset_sound hsize handler before.m_config
  · simp only [init, reset, RawFormatEncoder.init, RawFormatEncoder.reset_buffer_size]

/-- Whenever an acquisition is completed, it has an entry and its trigger lies in it, in every
run in which the acquisitions end in time. -/
theorem trigger_position {d : DataLogger} (hinit : Initialized d) {calls : List Call}
    (hends : Along call EndsInTime d calls) : Always call PositionInside d calls := by
  have hstep : ∀ d c, Positioned d → EndsInTime d c → Positioned (d.call c) :=
    fun _ _ h hends => call_positioned h hends
  exact (always_invariant hstep (initialized_positioned hinit) hends).mono fun _ h => h.inside

end DataLogger

end

section

attribute [local instance] host.platform

/-- Some bytes of memory are logged, with a trigger that fires at once. -/
def memory_configuration (size probe_location : uint8_t) (timeout_100ns : uint32_t)
    (decimation : uint16_t) : Configuration where
  items_to_log := fun _ => ⟨LoggableType.Memory, 0x1000, size, 0⟩
  trigger := ⟨fun _ => host.operand, 0, 0, 0⟩
  timeout_100ns := timeout_100ns
  decimation := decimation
  items_count := 1
  probe_location := probe_location

def small_datalogger (size : Nat) : DataLogger :=
  (host.datalogger.init (host.config 256 [] host.none_forbidden) (some fun _ => 0) size none).1

theorem small_datalogger_initialized {size : Nat} (hsize : size < 2 ^ 32) :
    (small_datalogger size).Initialized := ⟨_, _, _, size, none, hsize, rfl⟩

def configure (m_config : Configuration) : DataLogger.Call :=
  .configure m_config (host.config 256 [] host.none_forbidden) (some 0) 0

def process_at (time : uint32_t) : DataLogger.Call :=
  .process (host.config 256 [] host.none_forbidden) (fun _ => ⟨time⟩) host.zeroed.memory

theorem trigger_position_of_timeout :
    Always DataLogger.call DataLogger.PositionInside (small_datalogger 4)
      [configure (memory_configuration 1 0 10 1), .arm_trigger, process_at 0, process_at 10] :=
  DataLogger.trigger_position (small_datalogger_initialized (by decide)) (by decide +kernel)

/-- The timeout runs out before the decimation lets the first entry through. -/
theorem trigger_position_of_nothing :
    ¬ ∀ (d : DataLogger) (calls : List DataLogger.Call), d.Initialized →
      Always DataLogger.call DataLogger.PositionInside d calls := by
  intro hposition
  have hrun := hposition (small_datalogger 4)
    [configure (memory_configuration 1 0 10 3), .arm_trigger, process_at 0, process_at 10]
    (small_datalogger_initialized (by decide))
  revert hrun
  decide +kernel

/-- Four bytes of a buffer of five are to be written after the trigger, and the ring holds one
entry of three. -/
example : ¬ (run DataLogger.call (small_datalogger 5) [configure (memory_configuration 3 0 0 1),
    .arm_trigger, process_at 0, process_at 0, process_at 0]).PositionInside := by decide +kernel

end

end scrutiny.datalogging
