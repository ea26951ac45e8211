import Scrutiny.Datalogging.Position

open foundation

namespace scrutiny.datalogging

section

variable [Platform]

namespace RawFormatEncoder

variable {self : RawFormatEncoder}

/-- The bytes to write since the counter was put to zero for the ring to be full. -/
def to_fill (self : RawFormatEncoder) : Nat :=
  (self.m_max_entries - self.m_next_entry_write_index + self.m_entry_write_counter) *
    self.m_entry_size.toNat

/-- As long as the ring is not full, an entry is one less to write and one more written. -/
theorem encode_next_entry_to_fill (h : self.Sound) (herror : self.m_error = false)
    (handler : Config) (config : Configuration) (timebase : Timebase) (caller : Option LoopId)
    (memory : Memory) :
    let after := (self.encode_next_entry handler config timebase caller memory).1
    after.m_full = false → self.m_full = false ∧ after.to_fill = self.to_fill := by
  intro after hroom
  have hring := h.ring herror
  have hnext := hring.next_lt
  have hmax := hring.max_entries_lt h.size_lt
  obtain ⟨m_buffer, hcursors⟩ :=
    encode_next_entry_cursors h herror handler config timebase caller memory
  have hafter : after = (self.encode_next_entry handler config timebase caller memory).1 := rfl
  rw [hcursors] at hafter
  rw [hafter] at hroom ⊢
  simp only [Bool.or_eq_false_iff, decide_eq_false_iff_not] at hroom
  have hcounter := h.counter hroom.1
  refine ⟨hroom.1, ?_⟩
  simp only [to_fill, next_index, if_neg hroom.2]
  rw [buffer_size_of_lt (by omega)]
  congr 1
  omega

/-- The encoder stays sound, whether an entry is logged or not. -/
theorem Sound.acquired (h : self.Sound) (herror : self.m_error = false) (logs : Bool)
    (handler : Config) (config : Configuration) (timebase : Timebase) (caller : Option LoopId)
    (memory : Memory) :
    let acquired :=
      if logs then (self.encode_next_entry handler config timebase caller memory).1 else self
    acquired.Sound ∧ acquired.m_error = false ∧ acquired.m_buffer_size = self.m_buffer_size := by
  cases logs with
  | false => exact ⟨h, herror, rfl⟩
  | true =>
    obtain ⟨m_buffer, hcursors⟩ :=
      encode_next_entry_cursors h herror handler config timebase caller memory
    have hsound := h.encode_next_entry handler config timebase caller memory
    simp only [if_true]
    rw [hcursors] at hsound ⊢
    exact ⟨hsound, herror, rfl⟩

/-- When the ring is not full, more was to be written than was. -/
theorem Sound.written_lt_to_fill (h : self.Sound) (herror : self.m_error = false)
    (hroom : self.m_full = false) : self.get_data_write_counter < self.to_fill := by
  have hring := h.ring herror
  have hnext := hring.next_lt
  have hpos := hring.entry_size_pos
  have hcounter := h.counter hroom
  have hwritten : self.m_entry_write_counter * self.m_entry_size.toNat ≤
      self.m_max_entries * self.m_entry_size.toNat := Nat.mul_le_mul_right _ (by omega)
  have hfits := hring.fits
  have hsize := h.size_lt
  rw [get_data_write_counter, buffer_size_of_lt (by omega), to_fill]
  exact Nat.mul_lt_mul_of_pos_right (by omega) hpos

/-- What is missing in the ring is in the buffer. -/
theorem Ring.remaining_eq (h : self.Ring)
    (hsize : self.m_buffer_size < 2 ^ Platform.buffer_size_bits) (hroom : self.m_full = false) :
    self.remaining_bytes_to_full =
        (self.m_max_entries - self.m_next_entry_write_index) * self.m_entry_size.toNat ∧
      self.remaining_bytes_to_full ≤ self.m_buffer_size := by
  have hentry := index_mul_le h.next_lt
  have hfits := h.fits
  rw [remaining_bytes_to_full, if_neg (by simp [hroom]), h.effective_size hsize,
    h.write_cursor hsize, buffer_size_sub_of_le (by omega) (by omega), Nat.sub_mul]
  exact ⟨rfl, by omega⟩

end RawFormatEncoder

namespace DataLogger

/-- A configuration without a timeout. -/
def NoTimeout : Call → Prop
  | .configure m_config _ _ _ => m_config.timeout_100ns = 0
  | _ => True

instance : (c : Call) → Decidable (NoTimeout c)
  | .configure m_config _ _ _ => inferInstanceAs (Decidable (m_config.timeout_100ns = 0))
  | .reset _ | .arm_trigger | .disarm_trigger | .force_trigger | .process _ _ _ =>
    inferInstanceAs (Decidable True)

/-- The acquisition takes all the room there is. -/
def UsesWholeBuffer (self : DataLogger) : Prop :=
  self.m_state = .AcquisitionCompleted →
    self.m_encoder.buffer_full = true ∧
      self.m_encoder.get_entry_count = self.m_encoder.m_max_entries

/-- What holds of a datalogger that has no timeout: after the trigger, the ring is filled
before the acquisition is completed. -/
structure Filling (d : DataLogger) : Prop where
  encoder : d.m_encoder.Sound
  size : d.m_buffer_size = d.m_encoder.m_buffer_size
  no_timeout : d.m_state ≠ .Idle → d.m_state ≠ .Error → d.m_config.timeout_100ns = 0
  no_error : d.m_state = .Triggered → d.m_encoder.m_error = false
  missing : d.m_state = .Triggered → d.m_encoder.m_full = false →
    d.m_encoder.to_fill ≤ d.m_remaining_data_to_write
  full : d.m_state = .AcquisitionCompleted → d.m_encoder.m_full = true

theorem Filling.full_of_completed {d : DataLogger} (h : Filling d) (htriggered : d.m_state = .Triggered)
    {timebases : LoopId → Timebase} (hcompleted : d.acquisition_completed timebases = true) :
    d.m_encoder.m_full = true := by
  have hnever : d.m_config.timeout_100ns = 0 := by
    apply h.no_timeout <;> rw [htriggered] <;> exact State.noConfusion
  by_contra hnot
  have hroom := Bool.eq_false_of_not_eq_true hnot
  have hmissing := h.missing htriggered hroom
  have hwritten := h.encoder.written_lt_to_fill (h.no_error htriggered) hroom
  simp [acquisition_completed, htriggered, hnever] at hcompleted
  omega

theorem Filling.process_completion {d : DataLogger} (h : Filling d)
    (timebases : LoopId → Timebase) : Filling (d.process_completion timebases) := by
  unfold DataLogger.process_completion
  split
  · rename_i hcompleted
    refine ⟨h.encoder, h.size, fun _ _ => ?_, State.noConfusion, State.noConfusion, fun _ => ?_⟩
    · apply h.no_timeout <;> rw [hcompleted.1] <;> exact State.noConfusion
    · exact h.full_of_completed hcompleted.1 hcompleted.2
  · exact h

/-- At the trigger, no less is left to write than is missing in the ring. -/
theorem stamp_trigger_point_missing {d : DataLogger} (hsound : d.m_encoder.Sound)
    (herror : d.m_encoder.m_error = false) (hsize : d.m_buffer_size = d.m_encoder.m_buffer_size)
    (timebases : LoopId → Timebase) (hroom : d.m_encoder.m_full = false) :
    (d.stamp_trigger_point timebases).m_encoder.to_fill ≤
      (d.stamp_trigger_point timebases).m_remaining_data_to_write := by
  obtain ⟨hmissing, hinside⟩ := (hsound.reset_write_counter.ring herror).remaining_eq hsound.size_lt hroom
  have hfull : d.m_encoder.reset_write_counter.buffer_full = false := hroom
  have hfill : (d.stamp_trigger_point timebases).m_encoder.to_fill =
      d.m_encoder.reset_write_counter.remaining_bytes_to_full := hmissing.symm
  rw [hfill]
  simp only [stamp_trigger_point, hfull, Bool.not_false, if_true]
  split
  · rw [hsize]
    exact hinside
  · exact Nat.le_max_right _ _

theorem process_filling {d : DataLogger} (h : Filling d) (handler : Config)
    (timebases : LoopId → Timebase) (memory : Memory) :
    Filling (d.process handler timebases memory).1 := by
  cases d.process_processed handler timebases memory with
  | inactive hinactive hsame =>
    rw [hsame]
    exact h
  | error hactive herror hafter =>
    rw [hafter]
    exact ⟨h.encoder, h.size, fun _ hstate => absurd rfl hstate, State.noConfusion,
      State.noConfusion, State.noConfusion⟩
  | active hactive herror acquired looked hacquired hlooks hafter =>
    have hframe := h.encoder.acquired herror d.logs_now handler d.m_config
      ((d.m_encoder.m_timebase.map timebases).getD ⟨0⟩) d.m_owner memory
    have hfill : acquired.m_encoder.m_full = false → d.m_encoder.m_full = false ∧
        acquired.m_encoder.to_fill = d.m_encoder.to_fill := by
      rw [hacquired]
      simp only
      split
      · exact RawFormatEncoder.encode_next_entry_to_fill h.encoder herror _ _ _ _ _
      · exact fun hroom => ⟨hroom, rfl⟩
    obtain ⟨hsound, hno_error, hbuffer⟩ : acquired.m_encoder.Sound ∧
        acquired.m_encoder.m_error = false ∧
        acquired.m_encoder.m_buffer_size = d.m_encoder.m_buffer_size := by
      rw [hacquired]
      exact hframe
    have hsize : acquired.m_buffer_size = acquired.m_encoder.m_buffer_size := by
      rw [hbuffer, ← h.size, hacquired]
    have hno_timeout : acquired.m_config.timeout_100ns = 0 := by
      have hidle : d.m_state ≠ .Idle := fun hstate => by rw [hstate] at hactive; cases hactive
      have hfailed : d.m_state ≠ .Error := fun hstate => by rw [hstate] at hactive; cases hactive
      rw [hacquired]
      exact h.no_timeout hidle hfailed
    rw [hafter]
    apply Filling.process_completion
    cases hlooks with
    | ignored hidle hsame =>
      have hstate : acquired.m_state = d.m_state := by rw [hacquired]
      rw [hsame]
      refine ⟨hsound, hsize, fun _ _ => hno_timeout, fun _ => hno_error, fun htriggered hroom => ?_,
        fun hcompleted => ?_⟩
      · obtain ⟨hbefore, hsame_fill⟩ := hfill hroom
        have hmissing := h.missing (hstate.symm.trans htriggered) hbefore
        rw [hsame_fill, hacquired]
        exact hmissing
      · rw [hstate] at hcompleted
        rw [hcompleted] at hactive
        cases hactive
    | waits harmed m_trigger ops_data m_manual_trigger hwaits =>
      have hstate : looked.m_state = .Armed := by rw [hwaits, harmed]
      refine ⟨?_, ?_, fun _ _ => ?_, fun htriggered => ?_, fun htriggered => ?_,
        fun hcompleted => ?_⟩
      · rw [hwaits]
        exact hsound
      · rw [hwaits]
        exact hsize
      · rw [hwaits]
        exact hno_timeout
      · cases hstate.symm.trans htriggered
      · cases hstate.symm.trans htriggered
      · cases hstate.symm.trans hcompleted
    | fires harmed m_trigger ops_data m_manual_trigger hfires =>
      have hmissing := stamp_trigger_point_missing
        (show ({ acquired with m_trigger, ops_data, m_manual_trigger } :
          DataLogger).m_encoder.Sound from hsound) hno_error hsize timebases
      rw [hfires]
      exact ⟨hsound.reset_write_counter, hsize, fun _ _ => hno_timeout, fun _ => hno_error,
        fun _ hroom => hmissing hroom, State.noConfusion⟩

theorem call_filling {d : DataLogger} {c : Call} (h : Filling d) (hno_timeout : NoTimeout c) :
    Filling (d.call c) := by
  cases c with
  | configure m_config handler timebase config_id =>
    obtain ⟨hsize, _, _, hstate⟩ := { d with m_config }.configure_cases handler timebase config_id
    have hconfig : ({ d with m_config }.configure handler timebase config_id).m_config =
        m_config := by
      unfold DataLogger.configure
      simp only
      split <;> rfl
    change Filling ({ d with m_config }.configure handler timebase config_id)
    have hnever : ({ d with m_config }.configure handler timebase
        config_id).m_config.timeout_100ns = 0 := by
      rw [hconfig]
      exact hno_timeout
    rcases hstate with ⟨hstate, hencoder⟩ | ⟨hstate, hencoder⟩
    · refine ⟨?_, ?_, fun _ _ => hnever, ?_, ?_, ?_⟩
      · rw [hencoder]
        apply RawFormatEncoder.reset_sound
        exact h.encoder.size_lt
      · rw [hsize, hencoder, RawFormatEncoder.reset_buffer_size]
        exact h.size
      all_goals
        rw [hstate]
        exact State.noConfusion
    · refine ⟨?_, ?_, fun _ _ => hnever, ?_, ?_, ?_⟩
      · rw [hencoder]
        exact h.encoder
      · rw [hsize, hencoder]
        exact h.size
      all_goals
        rw [hstate]
        exact State.noConfusion
  | reset m_config =>
    exact ⟨h.encoder, h.size, fun hidle => absurd rfl hidle, State.noConfusion, State.noConfusion,
      State.noConfusion⟩
  | arm_trigger =>
    change Filling d.arm_trigger
    unfold DataLogger.arm_trigger
    split
    · rename_i hstate
      refine ⟨h.encoder, h.size, fun _ _ => ?_, State.noConfusion, State.noConfusion,
        State.noConfusion⟩
      apply h.no_timeout <;> rcases hstate with hstate | hstate | hstate <;> rw [hstate] <;>
        exact State.noConfusion
    · exact h
  | disarm_trigger =>
    change Filling d.disarm_trigger
    unfold DataLogger.disarm_trigger
    split
    · rename_i hstate
      refine ⟨h.encoder, h.size, fun _ _ => ?_, State.noConfusion, State.noConfusion,
        State.noConfusion⟩
      apply h.no_timeout <;> rcases hstate with hstate | hstate | hstate <;> rw [hstate] <;>
        exact State.noConfusion
    · exact h
  | force_trigger =>
    change Filling d.force_trigger
    unfold DataLogger.force_trigger
    split
    · exact ⟨h.encoder, h.size, h.no_timeout, h.no_error, h.missing, h.full⟩
    · exact h
  | process handler timebases memory => exact process_filling h handler timebases memory

theorem initialized_filling {d : DataLogger} (hinit : Initialized d) : Filling d := by
  obtain ⟨before, handler, buffer, size, trigger_callback, hsize, rfl⟩ := hinit
  refine ⟨?_, ?_, fun hidle => absurd rfl hidle, State.noConfusion, State.noConfusion,
    State.noConfusion⟩
  · exact RawFormatEncoder.reset_sound hsize handler before.m_config
  · simp only [init, reset, RawFormatEncoder.init, RawFormatEncoder.reset_buffer_size]

/-- Without a timeout, a completed acquisition takes the whole buffer, in every run. -/
theorem completed_uses_whole_buffer {d : DataLogger} (hinit : Initialized d) {calls : List Call}
    (hno_timeout : ∀ c ∈ calls, NoTimeout c) : Always call UsesWholeBuffer d calls := by
  have hstep : ∀ d c, Filling d → NoTimeout c → Filling (d.call c) :=
    fun _ _ h hnever => call_filling h hnever
  have halong : Along call (fun _ c => NoTimeout c) d calls := by
    clear hinit
    induction calls generalizing d with
    | nil => trivial
    | cons c calls ih =>
      exact ⟨hno_timeout c List.mem_cons_self,
        ih fun other hmem => hno_timeout other (List.mem_cons_of_mem _ hmem)⟩
  refine (always_invariant hstep (initialized_filling hinit) halong).mono fun d h hcompleted => ?_
  have hfull := h.full hcompleted
  exact ⟨hfull, if_pos hfull⟩

end DataLogger

end

section

attribute [local instance] host.platform

/-- A buffer of five bytes for entries of two, with the trigger in the middle of it. -/
theorem completed_uses_whole_buffer_of_five :
    Always DataLogger.call DataLogger.UsesWholeBuffer (small_datalogger 5)
      [configure (memory_configuration 2 0x80 0 1), .arm_trigger, process_at 0, process_at 0,
        process_at 0] :=
  DataLogger.completed_uses_whole_buffer (small_datalogger_initialized (by decide)) (by decide)

end

end scrutiny.datalogging
