import Scrutiny.Datalogging.Completion

open foundation

namespace scrutiny.datalogging.DataLogger

section

variable [Platform]

/-- Calls of `process`. -/
def Call.is_process : Call → Prop
  | .process _ _ _ => True
  | _ => False

/-- The call logs an entry. -/
def logs (self : DataLogger) : Call → Bool
  | .process _ _ _ => self.m_state.active && !self.m_encoder.m_error && self.logs_now
  | _ => false

/-- The number of entries that are logged in the course of some calls. -/
def entries_logged : DataLogger → List Call → Nat
  | _, [] => 0
  | d, c :: calls => (d.logs c).toNat + entries_logged (d.call c) calls

/-- As long as only `process` is called, the counters count the entries logged, and with `k` of
them the acquisition is completed. -/
def CompletesOnTime (self : DataLogger) (k : Nat) : Prop :=
  ∀ calls : List Call, (∀ c ∈ calls, c.is_process) →
    let after := run call self calls
    let n := entries_logged self calls
    after.m_encoder.get_entry_write_counter = n ∧
      after.m_encoder.get_data_write_counter = n * self.m_encoder.m_entry_size.toNat ∧
      (k ≤ n → after.m_state = .AcquisitionCompleted)

/-- So many entries were logged since the trigger, of what was stamped then. -/
structure Counting (stamped : DataLogger) (n : Nat) (d : DataLogger) : Prop where
  encoder : d.m_encoder.Sound
  no_error : d.m_encoder.m_error = false
  entry_size : d.m_encoder.m_entry_size = stamped.m_encoder.m_entry_size
  size : d.m_encoder.m_buffer_size = stamped.m_encoder.m_buffer_size
  written : d.m_encoder.m_entry_write_counter = n
  remaining : d.m_remaining_data_to_write = stamped.m_remaining_data_to_write
  config : d.m_config = stamped.m_config
  timebase : d.m_timebase = stamped.m_timebase
  timestamp : d.m_trigger_timestamp = stamped.m_trigger_timestamp

variable {stamped d : DataLogger} {n : Nat}

/-- What is enough for the acquisition to be completed, after so many entries. -/
def ends_after (self : DataLogger) (n : Nat) (timebases : LoopId → Timebase) : Bool :=
  self.timed_out timebases ||
    decide (self.m_remaining_data_to_write ≤ buffer_size (n * self.m_encoder.m_entry_size.toNat))

theorem Counting.acquisition_completed (h : Counting stamped n d)
    (htriggered : d.m_state = .Triggered) (timebases : LoopId → Timebase) :
    d.acquisition_completed timebases = stamped.ends_after n timebases := by
  have hstate : ¬ d.m_state = .AcquisitionCompleted := by rw [htriggered]; exact State.noConfusion
  rw [DataLogger.acquisition_completed, if_neg hstate, if_pos htriggered, ends_after, timed_out,
    RawFormatEncoder.get_data_write_counter, DataLogger.timebase, DataLogger.timebase, h.written,
    h.entry_size, h.remaining, h.config, h.timebase, h.timestamp]

/-- The acquisition is not completed, or it is by now. -/
theorem Counting.process_completion (h : Counting stamped n d) (htriggered : d.m_state = .Triggered)
    (timebases : LoopId → Timebase) :
    Counting stamped n (d.process_completion timebases) ∧
      (d.process_completion timebases).m_state =
        (if stamped.ends_after n timebases then .AcquisitionCompleted else .Triggered) ∧
      (d.process_completion timebases).m_decimation_counter = d.m_decimation_counter := by
  unfold DataLogger.process_completion
  simp only [htriggered, h.acquisition_completed htriggered, true_and]
  split
  · exact ⟨⟨h.encoder, h.no_error, h.entry_size, h.size, h.written, h.remaining, h.config,
      h.timebase, h.timestamp⟩, rfl, rfl⟩
  · exact ⟨h, htriggered, rfl⟩

theorem Counting.process (h : Counting stamped n d) (htriggered : d.m_state = .Triggered)
    (hroom : n + 1 < 2 ^ Platform.buffer_size_bits) (handler : Config)
    (timebases : LoopId → Timebase) (memory : Memory) :
    let n' := n + d.logs_now.toNat
    let after := (d.process handler timebases memory).1
    Counting stamped n' after ∧
      after.m_state =
        (if stamped.ends_after n' timebases then .AcquisitionCompleted else .Triggered) ∧
      after.m_decimation_counter = if d.logs_now then 0 else d.m_decimation_counter + 1 := by
  intro n' after
  have hafter : after = (d.process handler timebases memory).1 := rfl
  have hactive : d.m_state.active = true := by rw [htriggered]; rfl
  cases d.process_processed handler timebases memory with
  | inactive hinactive hsame => rw [hinactive] at hactive; cases hactive
  | error _ herror hfailed => rw [h.no_error] at herror; cases herror
  | active _ herror acquired looked hacquired hlooks hcompleted =>
    have hstate : acquired.m_state = .Triggered := by rw [hacquired]; exact htriggered
    have hcounting : Counting stamped n' acquired := by
      rw [hacquired]
      cases hlogs : d.logs_now with
      | false =>
        have hsame : n' = n := by simp only [n', hlogs, Bool.toNat_false, Nat.add_zero]
        rw [hsame]
        exact ⟨h.encoder, h.no_error, h.entry_size, h.size, h.written, h.remaining, h.config,
          h.timebase, h.timestamp⟩
      | true =>
        have hmore : n' = n + 1 := by simp only [n', hlogs, Bool.toNat_true]
        have hsound := h.encoder.encode_next_entry handler d.m_config
          ((d.m_encoder.m_timebase.map timebases).getD ⟨0⟩) d.m_owner memory
        obtain ⟨m_buffer, hcursors⟩ := RawFormatEncoder.encode_next_entry_cursors h.encoder herror
          handler d.m_config ((d.m_encoder.m_timebase.map timebases).getD ⟨0⟩) d.m_owner memory
        rw [hcursors] at hsound
        simp only [if_true, hcursors]
        refine ⟨hsound, herror, h.entry_size, h.size, ?_, h.remaining, h.config, h.timebase, h.timestamp⟩
        simp only [h.written, hmore]
        exact buffer_size_of_lt hroom
    cases hlooks with
    | ignored _ hsame =>
      obtain ⟨hdone, hend, hcounter⟩ := hcounting.process_completion hstate timebases
      rw [hafter, hcompleted, hsame]
      refine ⟨hdone, hend, hcounter.trans ?_⟩
      rw [hacquired]
    | waits harmed => cases hstate.symm.trans harmed
    | fires harmed => cases hstate.symm.trans harmed

/-- Until so many entries are logged that the product of the counters would wrap, the acquisition
is completed with the last of those it takes. -/
theorem Counting.run {k : Nat} (hpos : 0 < stamped.m_encoder.m_entry_size.toNat)
    (henough : stamped.m_remaining_data_to_write ≤ k * stamped.m_encoder.m_entry_size.toNat)
    (hwraps : k * stamped.m_encoder.m_entry_size.toNat < 2 ^ Platform.buffer_size_bits)
    {calls : List Call} (hcalls : ∀ c ∈ calls, c.is_process) (h : Counting stamped n d)
    (hn : n ≤ k) (hstate : d.m_state = .AcquisitionCompleted ∨ d.m_state = .Triggered ∧ n < k) :
    let after := foundation.run call d calls
    let n' := n + entries_logged d calls
    Counting stamped n' after ∧ n' ≤ k ∧
      (after.m_state = .AcquisitionCompleted ∨ after.m_state = .Triggered ∧ n' < k) := by
  induction calls generalizing d n with
  | nil => exact ⟨h, hn, hstate⟩
  | cons c calls ih =>
    have hrest : ∀ c ∈ calls, c.is_process := fun c hmem => hcalls c (List.mem_cons_of_mem _ hmem)
    obtain ⟨handler, timebases, memory, rfl⟩ : ∃ handler timebases memory,
        c = .process handler timebases memory := by
      have hprocess := hcalls c List.mem_cons_self
      cases c with
      | process handler timebases memory => exact ⟨_, _, _, rfl⟩
      | configure | reset | arm_trigger | disarm_trigger | force_trigger => cases hprocess
    simp only [entries_logged, run_cons, ← Nat.add_assoc]
    rcases hstate with hcompleted | ⟨htriggered, hless⟩
    · have hinactive : d.m_state.active = false := by rw [hcompleted]; rfl
      have hsame : d.call (.process handler timebases memory) = d := by
        rw [call, process_inactive hinactive]
      have hnone : d.logs (.process handler timebases memory) = false := by simp [logs, hinactive]
      rw [hsame, hnone]
      exact ih hrest h hn (.inl hcompleted)
    · have hproduct : k ≤ k * stamped.m_encoder.m_entry_size.toNat := Nat.le_mul_of_pos_right k hpos
      obtain ⟨hnext, hend, _⟩ := h.process htriggered (by omega) handler timebases memory
      have hlogs : d.logs (.process handler timebases memory) = d.logs_now := by
        simp [logs, htriggered, h.no_error, State.active]
      rw [hlogs]
      have hat_most : n + d.logs_now.toNat ≤ k := by
        have := Bool.toNat_le d.logs_now
        omega
      refine ih hrest hnext hat_most ?_
      rcases Nat.lt_or_eq_of_le hat_most with hbefore | hall
      · change (d.process handler timebases memory).1.m_state = _ ∨
          (d.process handler timebases memory).1.m_state = _ ∧ _
        rw [hend]
        split
        · exact .inl rfl
        · exact .inr ⟨rfl, hbefore⟩
      · left
        have hdone : stamped.ends_after k timebases = true := by
          rw [ends_after, buffer_size_of_lt hwraps, decide_eq_true henough, Bool.or_true]
        change (d.process handler timebases memory).1.m_state = _
        rw [hend, hall, if_pos hdone]

/-- What is stamped in the call of `process` in which the trigger fires. -/
structure Stamped (timebases : LoopId → Timebase) (d : DataLogger) : Prop where
  counting : Counting d 0 d
  state : d.m_state =
    if d.m_remaining_data_to_write = 0 then .AcquisitionCompleted else .Triggered
  timestamp : d.m_trigger_timestamp = (d.timebase timebases).get_timestamp
  remaining_le : d.m_remaining_data_to_write ≤ d.m_encoder.m_buffer_size
  remaining_of : d.m_remaining_data_to_write ≤ (d.m_encoder.m_buffer_size * 255) >>> 8 ∨
    ∃ entries, d.m_remaining_data_to_write ≤ entries * d.m_encoder.m_entry_size.toNat ∧
      entries * d.m_encoder.m_entry_size.toNat ≤ d.m_encoder.m_buffer_size

omit [Platform] in
/-- The timeout does not run out at the time of the trigger. -/
theorem not_timed_out {timebases : LoopId → Timebase}
    (htimestamp : d.m_trigger_timestamp = (d.timebase timebases).get_timestamp) :
    d.timed_out timebases = false := by
  rw [timed_out, htimestamp]
  by_cases hpos : d.m_config.timeout_100ns > 0
  · rw [has_expired_now _ hpos, Bool.and_false]
  · rw [decide_eq_false hpos, Bool.false_and]

/-- What is left to write after the trigger: a part of the buffer, or what is missing in it. -/
theorem stamp_trigger_point_remaining (hsound : d.m_encoder.Sound)
    (herror : d.m_encoder.m_error = false) (hsize : d.m_buffer_size = d.m_encoder.m_buffer_size)
    (timebases : LoopId → Timebase) :
    (d.stamp_trigger_point timebases).m_remaining_data_to_write ≤ d.m_encoder.m_buffer_size ∧
      ((d.stamp_trigger_point timebases).m_remaining_data_to_write ≤
          (d.m_encoder.m_buffer_size * 255) >>> 8 ∨
        ∃ entries, (d.stamp_trigger_point timebases).m_remaining_data_to_write ≤
            entries * d.m_encoder.m_entry_size.toNat ∧
          entries * d.m_encoder.m_entry_size.toNat ≤ d.m_encoder.m_buffer_size) := by
  have hpart : buffer_size ((d.m_encoder.m_buffer_size *
      ((1 <<< 8) - 1 - d.m_config.probe_location.toNat)) >>> 8) ≤
        (d.m_encoder.m_buffer_size * 255) >>> 8 := by
    refine (Nat.mod_le _ _).trans ?_
    rw [Nat.shiftRight_eq_div_pow, Nat.shiftRight_eq_div_pow]
    exact Nat.div_le_div_right (Nat.mul_le_mul_left _ (Nat.sub_le 255 _))
  simp only [stamp_trigger_point, hsize]
  generalize buffer_size ((d.m_encoder.m_buffer_size *
    ((1 <<< 8) - 1 - d.m_config.probe_location.toNat)) >>> 8) = part at hpart ⊢
  have hclip : ∀ remaining, (if remaining > d.m_encoder.m_buffer_size then
      d.m_encoder.m_buffer_size else remaining) ≤ d.m_encoder.m_buffer_size ∧
      (if remaining > d.m_encoder.m_buffer_size then
        d.m_encoder.m_buffer_size else remaining) ≤ remaining := by
    intro remaining
    split <;> omega
  cases hfull : d.m_encoder.m_full with
  | true =>
    have hbuffer_full : d.m_encoder.reset_write_counter.buffer_full = true := hfull
    simp only [hbuffer_full, Bool.not_true, Bool.false_eq_true, if_false]
    exact ⟨(hclip part).1, .inl ((hclip part).2.trans hpart)⟩
  | false =>
    have hbuffer_full : d.m_encoder.reset_write_counter.buffer_full = false := hfull
    obtain ⟨hmissing, hinside⟩ :=
      (hsound.reset_write_counter.ring herror).remaining_eq hsound.size_lt hfull
    simp only [hbuffer_full, Bool.not_false, if_true]
    rcases Nat.le_total d.m_encoder.reset_write_counter.remaining_bytes_to_full part with hle | hge
    · rw [Nat.max_eq_left hle]
      exact ⟨(hclip part).1, .inl ((hclip part).2.trans hpart)⟩
    · rw [Nat.max_eq_right hge]
      exact ⟨(hclip _).1, .inr ⟨_, (hclip _).2.trans hmissing.le, hmissing.symm.trans_le hinside⟩⟩

theorem stamped_of_fires (hsound : d.m_encoder.Sound)
    (hsize : d.m_buffer_size = d.m_encoder.m_buffer_size) {handler : Config}
    {timebases : LoopId → Timebase} {memory : Memory} (harmed : d.m_state = .Armed)
    (hfires : (d.process handler timebases memory).1.m_state = .Triggered ∨
      (d.process handler timebases memory).1.m_state = .AcquisitionCompleted) :
    Stamped timebases (d.process handler timebases memory).1 := by
  have hactive : d.m_state.active = true := by rw [harmed]; rfl
  cases d.process_processed handler timebases memory with
  | inactive hinactive _ => rw [hinactive] at hactive; cases hactive
  | error _ _ hfailed =>
    rw [hfailed] at hfires
    rcases hfires with hfires | hfires <;> cases hfires
  | active _ herror acquired looked hacquired hlooks hafter =>
    have hstate : acquired.m_state = .Armed := by rw [hacquired]; exact harmed
    cases hlooks with
    | ignored hidle _ => exact absurd hstate hidle
    | waits _ m_trigger ops_data m_manual_trigger hwaits =>
      have hwaiting : looked.m_state = .Armed := by rw [hwaits, hstate]
      have hsame : looked.process_completion timebases = looked := by
        rw [process_completion, if_neg]
        rintro ⟨htriggered, -⟩
        cases hwaiting.symm.trans htriggered
      rw [hafter, hsame, hwaiting] at hfires
      rcases hfires with hfires | hfires <;> cases hfires
    | fires _ m_trigger ops_data m_manual_trigger hstamps =>
      obtain ⟨hsound', hno_error, hbuffer⟩ : acquired.m_encoder.Sound ∧
          acquired.m_encoder.m_error = false ∧
          acquired.m_encoder.m_buffer_size = d.m_encoder.m_buffer_size := by
        rw [hacquired]
        exact hsound.acquired herror d.logs_now handler d.m_config
          ((d.m_encoder.m_timebase.map timebases).getD ⟨0⟩) d.m_owner memory
      have hsize' : acquired.m_buffer_size = acquired.m_encoder.m_buffer_size := by
        rw [hbuffer, ← hsize, hacquired]
      obtain ⟨hremaining, hremaining_of⟩ := stamp_trigger_point_remaining
        (show ({ acquired with m_trigger, ops_data, m_manual_trigger } :
          DataLogger).m_encoder.Sound from hsound') hno_error hsize' timebases
      have hcounting : Counting looked 0 looked := by
        rw [hstamps]
        exact ⟨hsound'.reset_write_counter, hno_error, rfl, rfl, rfl, rfl, rfl, rfl, rfl⟩
      have htriggered : looked.m_state = .Triggered := by rw [hstamps]
      have htimestamp : looked.m_trigger_timestamp = (looked.timebase timebases).get_timestamp := by
        rw [hstamps]
        rfl
      obtain ⟨hafter_counting, hend, _⟩ := hcounting.process_completion htriggered timebases
      rw [← hafter] at hafter_counting hend
      have hdone : looked.ends_after 0 timebases =
          decide (looked.m_remaining_data_to_write = 0) := by
        rw [ends_after, not_timed_out htimestamp, Nat.zero_mul, Bool.false_or, decide_eq_decide]
        exact Nat.le_zero
      refine ⟨⟨hafter_counting.encoder, hafter_counting.no_error, rfl, rfl, hafter_counting.written,
        rfl, rfl, rfl, rfl⟩, ?_, ?_, ?_, ?_⟩
      · rw [hend, hdone, hafter_counting.remaining]
        simp
      · rw [hafter_counting.timestamp, htimestamp, DataLogger.timebase, DataLogger.timebase,
          hafter_counting.timebase]
      · rw [hafter_counting.remaining, hafter_counting.size, hstamps]
        exact hremaining
      · rw [hafter_counting.remaining, hafter_counting.size, hafter_counting.entry_size, hstamps]
        exact hremaining_of

theorem entries_logged_append (d : DataLogger) (calls others : List Call) :
    entries_logged d (calls ++ others) =
      entries_logged d calls + entries_logged (foundation.run call d calls) others := by
  induction calls generalizing d with
  | nil => exact (Nat.zero_add _).symm
  | cons c calls ih => rw [List.cons_append, entries_logged, entries_logged, ih, run_cons,
      Nat.add_assoc]

section

variable {timebases : LoopId → Timebase} (handler : Config) (memory : Memory)

/-- The next entry is logged after some calls, whatever the decimation. -/
theorem Counting.reaches_next (hroom : n + 1 < 2 ^ Platform.buffer_size_bits)
    (hgoes_on : ∀ m ≤ n + 1, stamped.ends_after m timebases = false) (gap : Nat)
    (hgap : d.m_config.decimation.toNat - (d.m_decimation_counter + 1).toNat ≤ gap)
    (h : Counting stamped n d) (htriggered : d.m_state = .Triggered) :
    ∃ m, Counting stamped (n + 1)
        (foundation.run call d (List.replicate m (.process handler timebases memory))) ∧
      (foundation.run call d
        (List.replicate m (.process handler timebases memory))).m_state = .Triggered ∧
      entries_logged d (List.replicate m (.process handler timebases memory)) = 1 := by
  induction gap using Nat.strong_induction_on generalizing d with | _ gap ih
  have hlogs_call : d.logs (.process handler timebases memory) = d.logs_now := by
    simp [logs, htriggered, h.no_error, State.active]
  obtain ⟨hnext, hend, hcounter⟩ := h.process htriggered hroom handler timebases memory
  have hat_most : n + d.logs_now.toNat ≤ n + 1 := Nat.add_le_add_left (Bool.toNat_le _) n
  rw [hgoes_on _ hat_most, if_neg Bool.false_ne_true] at hend
  cases hlogs : d.logs_now with
  | true =>
    rw [hlogs] at hnext hlogs_call
    exact ⟨1, hnext, hend, by rw [List.replicate_one, entries_logged, hlogs_call]; rfl⟩
  | false =>
    rw [hlogs] at hnext hcounter hlogs_call
    have hlater : (d.m_decimation_counter + 1).toNat < d.m_config.decimation.toNat := by
      have hnot := of_decide_eq_false hlogs
      exact BitVec.lt_def.mp (BitVec.not_le.mp hnot)
    have hcloser : (d.process handler timebases memory).1.m_config.decimation.toNat -
        ((d.process handler timebases memory).1.m_decimation_counter + 1).toNat ≤ gap - 1 := by
      have hdecimation := d.m_config.decimation.isLt
      have hone : (1 : uint16_t).toNat = 1 := rfl
      rw [hcounter, if_neg Bool.false_ne_true, hnext.config, ← h.config,
        BitVec.toNat_add_of_lt (by rw [hone]; omega), hone]
      omega
    obtain ⟨m, hreached, hstill, hone⟩ := ih (gap - 1) (by omega) hcloser hnext hend
    refine ⟨m + 1, hreached, hstill, ?_⟩
    rw [List.replicate_succ, entries_logged, hlogs_call]
    exact (Nat.zero_add _).trans hone

/-- As long as the counters do not tell that it is over, the acquisition goes on. -/
theorem Counting.reaches {k : Nat} (hroom : k < 2 ^ Platform.buffer_size_bits)
    (hgoes_on : ∀ m ≤ k, stamped.ends_after m timebases = false)
    (h : Counting stamped 0 d) (htriggered : d.m_state = .Triggered) :
    ∃ m, Counting stamped k
        (foundation.run call d (List.replicate m (.process handler timebases memory))) ∧
      (foundation.run call d
        (List.replicate m (.process handler timebases memory))).m_state = .Triggered ∧
      entries_logged d (List.replicate m (.process handler timebases memory)) = k := by
  induction k with
  | zero => exact ⟨0, h, htriggered, rfl⟩
  | succ k ih =>
    obtain ⟨first, hreached, hstill, hlogged⟩ :=
      ih (by omega) fun m hm => hgoes_on m (Nat.le_succ_of_le hm)
    obtain ⟨second, hreached', hstill', hlogged'⟩ :=
      hreached.reaches_next handler memory hroom hgoes_on _ (Nat.le_refl _) hstill
    refine ⟨first + second, ?_, ?_, ?_⟩
    · rw [List.replicate_add, run_append]
      exact hreached'
    · rw [List.replicate_add, run_append]
      exact hstill'
    · rw [List.replicate_add, entries_logged_append, hlogged, hlogged']

end

/-- With a product that wraps, nothing tells that the acquisition is over. -/
theorem Stamped.goes_on {timebases : LoopId → Timebase} (h : Stamped timebases stamped) {k : Nat}
    (hk : IsLeast {n | stamped.m_remaining_data_to_write ≤
      n * stamped.m_encoder.m_entry_size.toNat} k)
    (hwraps : 2 ^ Platform.buffer_size_bits ≤ k * stamped.m_encoder.m_entry_size.toNat) :
    k < 2 ^ Platform.buffer_size_bits ∧ stamped.m_remaining_data_to_write ≠ 0 ∧
      ∀ m ≤ k, stamped.ends_after m timebases = false := by
  have hpos := (h.counting.encoder.ring h.counting.no_error).entry_size_pos
  have hsize := h.counting.encoder.size_lt
  have hremaining := h.remaining_le
  have hentry : stamped.m_encoder.m_entry_size.toNat < 2 ^ 16 := stamped.m_encoder.m_entry_size.isLt
  have hbits : 2 ^ 16 ≤ 2 ^ Platform.buffer_size_bits := by
    rcases Platform.buffer_size_supported with hbits | hbits
    · rw [hbits]
    · rw [hbits]
      decide
  have hleast : ∀ m < k, m * stamped.m_encoder.m_entry_size.toNat <
      stamped.m_remaining_data_to_write := by
    intro m hm
    by_contra hnot
    exact absurd (hk.2 (Nat.not_lt.mp hnot)) (Nat.not_le.mpr hm)
  obtain ⟨before, rfl⟩ : ∃ before, k = before + 1 := by
    refine Nat.exists_eq_add_one.mpr (Nat.pos_of_ne_zero ?_)
    rintro rfl
    omega
  have hless := hleast before (Nat.lt_succ_self before)
  have hbefore : before ≤ before * stamped.m_encoder.m_entry_size.toNat :=
    Nat.le_mul_of_pos_right before hpos
  rw [Nat.succ_mul] at hwraps
  have hfirst : stamped.m_encoder.m_entry_size.toNat ≤
      before * stamped.m_encoder.m_entry_size.toNat := by
    refine Nat.le_mul_of_pos_left _ (Nat.pos_of_ne_zero ?_)
    rintro rfl
    omega
  have hnever : stamped.timed_out timebases = false := not_timed_out h.timestamp
  refine ⟨by omega, by omega, fun m hm => ?_⟩
  rw [ends_after, hnever, Bool.false_or, decide_eq_false_iff_not, Nat.not_le]
  rcases Nat.lt_or_eq_of_le hm with hlt | rfl
  · have hproduct := hleast m hlt
    rw [buffer_size_of_lt (by omega)]
    exact hproduct
  · have hwrapped : buffer_size ((before + 1) * stamped.m_encoder.m_entry_size.toNat) =
        before * stamped.m_encoder.m_entry_size.toNat + stamped.m_encoder.m_entry_size.toNat -
          2 ^ Platform.buffer_size_bits := by
      rw [Nat.succ_mul, buffer_size, Nat.mod_eq_sub_mod hwraps]
      exact Nat.mod_eq_of_lt (by omega)
    rw [hwrapped]
    omega

/-- Wide counters do not wrap before the end. -/
theorem Stamped.product_lt_of_wide {timebases : LoopId → Timebase} (h : Stamped timebases stamped)
    {k : Nat} (hk : IsLeast {n | stamped.m_remaining_data_to_write ≤
      n * stamped.m_encoder.m_entry_size.toNat} k) (hwide : Platform.buffer_size_bits = 32) :
    k * stamped.m_encoder.m_entry_size.toNat < 2 ^ Platform.buffer_size_bits := by
  have hsize := h.counting.encoder.size_lt
  have hentry : stamped.m_encoder.m_entry_size.toNat < 2 ^ 16 := stamped.m_encoder.m_entry_size.isLt
  rw [hwide] at hsize ⊢
  rcases h.remaining_of with hpart | ⟨entries, hmissing, hinside⟩
  · rw [Nat.shiftRight_eq_div_pow] at hpart
    rcases Nat.eq_zero_or_pos k with rfl | hpos
    · rw [Nat.zero_mul]
      exact Nat.two_pow_pos 32
    · obtain ⟨before, rfl⟩ := Nat.exists_eq_add_one.mpr hpos
      have hless : before * stamped.m_encoder.m_entry_size.toNat <
          stamped.m_remaining_data_to_write := by
        by_contra hnot
        exact absurd (hk.2 (Nat.not_lt.mp hnot)) (Nat.not_le.mpr (Nat.lt_succ_self before))
      rw [Nat.succ_mul]
      omega
  · have hfew : k ≤ entries := hk.2 hmissing
    have hproduct := Nat.mul_le_mul_right stamped.m_encoder.m_entry_size.toNat hfew
    omega

theorem Stamped.completes_on_time {timebases : LoopId → Timebase} (h : Stamped timebases stamped)
    {k : Nat} (hk : IsLeast {n | stamped.m_remaining_data_to_write ≤
      n * stamped.m_encoder.m_entry_size.toNat} k)
    (hproduct : k * stamped.m_encoder.m_entry_size.toNat < 2 ^ Platform.buffer_size_bits) :
    CompletesOnTime stamped k := by
  intro calls hcalls after n
  have hpos := (h.counting.encoder.ring h.counting.no_error).entry_size_pos
  have hstart : stamped.m_state = .AcquisitionCompleted ∨ stamped.m_state = .Triggered ∧ 0 < k := by
    rw [h.state]
    split
    · exact .inl rfl
    · rename_i hsome
      refine .inr ⟨rfl, Nat.pos_of_ne_zero ?_⟩
      rintro rfl
      have hnone := hk.1
      rw [Set.mem_ofPred_eq, Nat.zero_mul] at hnone
      exact hsome (Nat.le_zero.mp hnone)
  obtain ⟨hcounting, hat_most, hend⟩ :=
    h.counting.run hpos hk.1 hproduct hcalls (Nat.zero_le k) hstart
  rw [Nat.zero_add] at hcounting hat_most hend
  have hless : n * stamped.m_encoder.m_entry_size.toNat < 2 ^ Platform.buffer_size_bits :=
    (Nat.mul_le_mul_right _ hat_most).trans_lt hproduct
  refine ⟨hcounting.written, ?_, fun henough => ?_⟩
  · rw [RawFormatEncoder.get_data_write_counter, hcounting.written, hcounting.entry_size]
    exact buffer_size_of_lt hless
  · rcases hend with hcompleted | ⟨_, hmore⟩
    · exact hcompleted
    · omega

theorem Stamped.product_lt {timebases : LoopId → Timebase} (h : Stamped timebases stamped) {k : Nat}
    (hk : IsLeast {n | stamped.m_remaining_data_to_write ≤
      n * stamped.m_encoder.m_entry_size.toNat} k) (hontime : CompletesOnTime stamped k)
    (handler : Config) (memory : Memory) :
    k * stamped.m_encoder.m_entry_size.toNat < 2 ^ Platform.buffer_size_bits := by
  by_contra hwraps
  obtain ⟨hroom, hsome, hgoes_on⟩ := h.goes_on hk (Nat.not_lt.mp hwraps)
  have htriggered : stamped.m_state = .Triggered := h.state.trans (if_neg hsome)
  obtain ⟨m, _, hstill, hlogged⟩ :=
    h.counting.reaches handler memory hroom hgoes_on htriggered
  have hcalls : ∀ c ∈ List.replicate m (Call.process handler timebases memory), c.is_process := by
    intro c hmem
    rw [List.eq_of_mem_replicate hmem]
    trivial
  have hcompleted := (hontime _ hcalls).2.2 hlogged.ge
  cases hstill.symm.trans hcompleted

/-- After the trigger, the acquisition is completed with the entry that makes what was left to
write, if and only if the size of these entries together can be told in the type of the counters.
With 32 bits it always can. -/
theorem completes_on_time_iff {start : DataLogger} (hinit : Initialized start)
    {before : List Call} {handler : Config} {timebases : LoopId → Timebase} {memory : Memory}
    (harmed : (foundation.run call start before).m_state = .Armed) {stamped : DataLogger}
    (hcall : stamped = (foundation.run call start before).call (.process handler timebases memory))
    (hfires : stamped.m_state = .Triggered ∨ stamped.m_state = .AcquisitionCompleted) {k : Nat}
    (hk : IsLeast {n | stamped.m_remaining_data_to_write ≤
      n * stamped.m_encoder.m_entry_size.toNat} k) :
    (CompletesOnTime stamped k ↔
      k * stamped.m_encoder.m_entry_size.toNat < 2 ^ Platform.buffer_size_bits) ∧
    (Platform.buffer_size_bits = 32 → CompletesOnTime stamped k) := by
  subst hcall
  have h : Stamped timebases
      ((foundation.run call start before).call (.process handler timebases memory)) :=
    stamped_of_fires (run_encoder_sound hinit before) (run_buffer_size hinit before) harmed hfires
  exact ⟨⟨fun hontime => h.product_lt hk hontime handler memory, h.completes_on_time hk⟩,
    fun hwide => h.completes_on_time hk (h.product_lt_of_wide hk hwide)⟩

end

end scrutiny.datalogging.DataLogger

namespace scrutiny.datalogging

section

attribute [local instance] host.platform

/-- Four entries of one byte, the trigger with the first of them. -/
theorem completes_on_time_of_four :
    DataLogger.CompletesOnTime (run DataLogger.call (small_datalogger 4)
      ([configure (memory_configuration 1 0x80 0 1), .arm_trigger] ++ [process_at 0])) 3 := by
  have hremaining : (run DataLogger.call (small_datalogger 4) ([configure
      (memory_configuration 1 0x80 0 1), .arm_trigger] ++ [process_at 0])).m_remaining_data_to_write =
        3 := by decide +kernel
  have hentry : (run DataLogger.call (small_datalogger 4) ([configure
      (memory_configuration 1 0x80 0 1), .arm_trigger] ++
        [process_at 0])).m_encoder.m_entry_size.toNat = 1 := by decide +kernel
  refine (DataLogger.completes_on_time_iff (small_datalogger_initialized (by decide)) (by decide +kernel)
    (run_append _ _ _ _) (by decide +kernel) ?_).2 rfl
  rw [hremaining, hentry]
  exact ⟨by decide, fun n hn => by simpa using hn⟩

end

section

/-- The target of the tests with counters of 16 bits. -/
@[reducible] def narrow_platform : Platform :=
  { host.platform with
    buffer_size_bits := 16
    buffer_size_supported := by decide }

attribute [local instance] narrow_platform

def narrow_config : Config :=
  { host.config 256 [] host.none_forbidden with m_datalogger_buffer_size_lt := by decide }

/-- Four blocks of 250 bytes are logged, with a trigger that fires at once. -/
def blocks_configuration : Configuration where
  items_to_log := fun _ => ⟨LoggableType.Memory, 0x1000, 250, 0⟩
  trigger := ⟨fun _ => host.operand, 0, 0, 0⟩
  timeout_100ns := 0
  decimation := 1
  items_count := 4
  probe_location := 0

def narrow_datalogger : DataLogger :=
  (host.datalogger.init narrow_config (some fun _ => 0) 65535 none).1

def narrow_process : DataLogger.Call := .process narrow_config (fun _ => ⟨0⟩) ⟨fun _ => 0, []⟩

/-- The 66 entries after the trigger are 66000 bytes, which 16 bits do not hold. -/
theorem wraps_on_time :
    ¬ ∀ (start : DataLogger) (before : List DataLogger.Call) (handler : Config)
      (timebases : LoopId → Timebase) (memory : Memory) (k : Nat), start.Initialized →
      (run DataLogger.call start before).m_state = .Armed →
      let stamped := (run DataLogger.call start before).call (.process handler timebases memory)
      stamped.m_state = .Triggered ∨ stamped.m_state = .AcquisitionCompleted →
      IsLeast {n | stamped.m_remaining_data_to_write ≤
        n * stamped.m_encoder.m_entry_size.toNat} k → stamped.CompletesOnTime k := by
  intro hontime
  have hinit : narrow_datalogger.Initialized := ⟨_, _, _, 65535, none, by decide, rfl⟩
  have hcompletes := hontime narrow_datalogger
    [.configure blocks_configuration narrow_config (some 0) 0, .arm_trigger] narrow_config
    (fun _ => ⟨0⟩) ⟨fun _ => 0, []⟩ 66 hinit (by decide +kernel) (by decide +kernel)
  generalize hstamped : (run DataLogger.call narrow_datalogger [.configure blocks_configuration
    narrow_config (some 0) 0, .arm_trigger]).call
      (.process narrow_config (fun _ => ⟨0⟩) ⟨fun _ => 0, []⟩) = stamped at hcompletes
  have hremaining : stamped.m_remaining_data_to_write = 65279 := by
    rw [← hstamped]
    decide +kernel
  have hentry : stamped.m_encoder.m_entry_size.toNat = 1000 := by
    rw [← hstamped]
    decide +kernel
  rw [hremaining, hentry] at hcompletes
  have hleast : IsLeast {n | 65279 ≤ n * 1000} 66 := by
    refine ⟨by decide, fun n hn => ?_⟩
    rw [Set.mem_ofPred_eq] at hn
    omega
  have hcalls : ∀ c ∈ List.replicate 66 narrow_process, c.is_process := by
    intro c hmem
    rw [List.eq_of_mem_replicate hmem]
    trivial
  have hlogged : DataLogger.entries_logged stamped (List.replicate 66 narrow_process) = 66 := by
    rw [← hstamped]
    decide +kernel
  have hstill : (run DataLogger.call stamped (List.replicate 66 narrow_process)).m_state =
      .Triggered := by
    rw [← hstamped]
    decide +kernel
  have hcompleted := (hcompletes hleast _ hcalls).2.2 hlogged.ge
  cases hstill.symm.trans hcompleted

end

end scrutiny.datalogging
