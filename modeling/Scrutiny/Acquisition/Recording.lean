import Scrutiny.Acquisition.Checked
import Scrutiny.Datalogging.Slots
import Scrutiny.Foundation.Trace
import Scrutiny.Session.Buffers

open foundation

namespace scrutiny

open datalogging protocol

section

variable [Platform]

namespace datalogging.DataLogger

/-- What is done to a datalogger that neither logs nor is configured anew. -/
structure Retained (before after : DataLogger) : Prop where
  encoder : ∃ m_reader, after.m_encoder = before.m_encoder.set_reader m_reader
  installed : after.m_state.installed = true → before.m_state.installed = true ∧
    after.m_config = before.m_config ∧ after.m_decimation_counter = before.m_decimation_counter

namespace Retained

variable {first second third : DataLogger}

omit [Platform] in
theorem refl (d : DataLogger) : Retained d d := ⟨⟨_, rfl⟩, fun h => ⟨h, rfl, rfl⟩⟩

omit [Platform] in
theorem trans (h : Retained first second) (h' : Retained second third) : Retained first third := by
  refine ⟨?_, fun hinstalled => ?_⟩
  · obtain ⟨m_reader, hencoder⟩ := h.encoder
    obtain ⟨m_reader', hencoder'⟩ := h'.encoder
    refine ⟨m_reader', ?_⟩
    rw [hencoder', hencoder]
    rfl
  · obtain ⟨hbetween, hconfig', hcounter'⟩ := h'.installed hinstalled
    obtain ⟨hbefore, hconfig, hcounter⟩ := h.installed hbetween
    exact ⟨hbefore, hconfig'.trans hconfig, hcounter'.trans hcounter⟩

variable (d : DataLogger)

omit [Platform] in
theorem reset (m_config : Configuration) : Retained d { d with m_config }.reset :=
  ⟨⟨_, rfl⟩, fun h => nomatch h⟩

omit [Platform] in
theorem owner (owner : Option LoopId) : Retained d (d.set_owner owner) :=
  ⟨⟨_, rfl⟩, fun h => ⟨h, rfl, rfl⟩⟩

omit [Platform] in
theorem reader (m_reader : RawFormatReader) :
    Retained d { d with m_encoder := d.m_encoder.set_reader m_reader } :=
  ⟨⟨m_reader, rfl⟩, fun h => ⟨h, rfl, rfl⟩⟩

omit [Platform] in
theorem arm_trigger : Retained d d.arm_trigger := by
  unfold DataLogger.arm_trigger
  split
  · rename_i hstate
    refine ⟨⟨_, rfl⟩, fun _ => ⟨?_, rfl, rfl⟩⟩
    rcases hstate with hstate | hstate | hstate <;> rw [hstate] <;> rfl
  · exact refl d

omit [Platform] in
theorem disarm_trigger : Retained d d.disarm_trigger := by
  unfold DataLogger.disarm_trigger
  split
  · rename_i hstate
    refine ⟨⟨_, rfl⟩, fun _ => ⟨?_, rfl, rfl⟩⟩
    rcases hstate with hstate | hstate | hstate <;> rw [hstate] <;> rfl
  · exact refl d

/-- A configuration that is not valid leaves the ring alone. -/
theorem refused (m_config : Configuration) (handler : Config) (timebase : Option LoopId)
    (config_id : uint16_t)
    (hvalid : ({ d with m_config }.configure handler timebase config_id).m_config_valid = false) :
    Retained d ({ d with m_config }.configure handler timebase config_id).reset := by
  refine ⟨?_, fun h => nomatch h⟩
  unfold configure at hvalid ⊢
  simp only at hvalid ⊢
  split
  · rename_i hchecks
    rw [if_pos hchecks] at hvalid
    cases hchecks.symm.trans hvalid
  · exact ⟨d.m_encoder.m_reader, rfl⟩

end Retained

end datalogging.DataLogger

namespace datalogging

namespace RawFormatEncoder.Logged

variable {max size : Nat} {log : List (List uint8_t)} {encoder : RawFormatEncoder}

theorem set_reader (h : Logged max size log encoder) (m_reader : RawFormatReader) :
    Logged max size log (encoder.set_reader m_reader) := by
  refine ⟨⟨h.sound.size_lt, fun herror => ?_, h.sound.counter⟩, h.no_error, h.max_entries,
    h.entry_size, h.entries, h.full⟩
  obtain ⟨hsize, hmax, hfits, hnext, hfirst⟩ := h.sound.ring herror
  exact ⟨hsize, hmax, hfits, hnext, hfirst⟩

theorem reset_write_counter (h : Logged max size log encoder) :
    Logged max size log encoder.reset_write_counter :=
  ⟨h.sound.reset_write_counter, h.no_error, h.max_entries, h.entry_size, h.entries, h.full⟩

end RawFormatEncoder.Logged

namespace DataLogger

open RawFormatEncoder

/-- The datalogger runs its acquisition when it is called. -/
def acquiring (self : DataLogger) : Bool := self.m_state.active && !self.m_encoder.error

/-- What the datalogger would make an entry from. -/
def sample (self : DataLogger) (timebases : LoopId → Timebase) (memory : Memory) : Sample where
  timebase := (self.m_encoder.m_timebase.map timebases).getD ⟨0⟩
  caller := self.m_owner
  memory := memory

/-- The entries that samples leave in a log. -/
def log_of (handler : Config) (config : Configuration) (samples : List Sample) :
    List (List uint8_t) :=
  (every config.decimation.toNat samples).map (encoded handler config)

/-- The ring holds the latest entries made from the samples since the configuration. -/
structure Recorded (handler : Config) (config : Configuration) (max : Nat) (samples : List Sample)
    (d : DataLogger) : Prop where
  logged : d.m_encoder.m_error = false → (∀ item ∈ config.item_list, item.Valid handler) ∧
    Logged max (entry_size handler config) (log_of handler config samples) d.m_encoder
  failed : d.m_encoder.m_error = true → d.m_encoder.entries = [] ∧ samples = []
  installed : d.m_state.installed = true → d.m_config = config ∧
    d.m_decimation_counter.toNat = samples.length % config.decimation.toNat

namespace Recorded

variable {handler : Config} {config : Configuration} {max : Nat} {samples : List Sample}
  {d d' : DataLogger}

theorem kept (h : Recorded handler config max samples d) (hkept : Retained d d') :
    Recorded handler config max samples d' := by
  obtain ⟨⟨m_reader, hencoder⟩, hinstalled⟩ := hkept
  refine ⟨?_, ?_, fun hafter => ?_⟩
  · intro herror
    rw [hencoder] at herror ⊢
    obtain ⟨hitems, hlogged⟩ := h.logged herror
    exact ⟨hitems, hlogged.set_reader m_reader⟩
  · intro herror
    rw [hencoder] at herror ⊢
    exact h.failed herror
  · obtain ⟨hbefore, hconfig, hcounter⟩ := hinstalled hafter
    rw [hconfig, hcounter]
    exact h.installed hbefore

theorem entries (h : Recorded handler config max samples d) :
    d.m_encoder.entries = latest max (log_of handler config samples) := by
  cases herror : d.m_encoder.m_error with
  | false => exact (h.logged herror).2.entries
  | true =>
    obtain ⟨hentries, rfl⟩ := h.failed herror
    rw [hentries]
    simp [log_of, latest]

end Recorded

omit [Platform] in
theorem installed_of_active {state : State} (hactive : state.active = true) :
    state.installed = true := by
  cases state with
  | Configured | Armed | Triggered => rfl
  | Idle | AcquisitionCompleted | Error => cases hactive

/-- What a call of `process` that acquires makes of the ring and of the counter. -/
theorem process_acquires {d : DataLogger} (hactive : d.m_state.active = true)
    (herror : d.m_encoder.m_error = false) (handler : Config) (timebases : LoopId → Timebase)
    (memory : Memory) :
    let after := (d.process handler timebases memory).1
    let encoder := if d.logs_now then
        (d.m_encoder.encode_next_entry handler d.m_config (d.sample timebases memory).timebase
          d.m_owner memory).1
      else d.m_encoder
    after.m_config = d.m_config ∧
      after.m_decimation_counter = (if d.logs_now then 0 else d.m_decimation_counter + 1) ∧
      (after.m_encoder = encoder ∨ after.m_encoder = encoder.reset_write_counter) := by
  have hcompletion (d : DataLogger) : (d.process_completion timebases).m_config = d.m_config ∧
      (d.process_completion timebases).m_decimation_counter = d.m_decimation_counter ∧
      (d.process_completion timebases).m_encoder = d.m_encoder := by
    unfold process_completion
    split <;> exact ⟨rfl, rfl, rfl⟩
  cases d.process_processed handler timebases memory with
  | inactive hinactive hsame => cases hactive.symm.trans hinactive
  | error _ hfailed hafter => cases herror.symm.trans hfailed
  | active _ _ acquired looked hacquired hlooks hafter =>
    obtain ⟨hconfig, hcounter, hencoder⟩ := hcompletion looked
    simp only
    rw [hafter, hconfig, hcounter, hencoder]
    cases hlooks with
    | ignored hstate hsame =>
      rw [hsame, hacquired]
      exact ⟨rfl, rfl, .inl rfl⟩
    | waits harmed m_trigger ops_data m_manual_trigger hwaits =>
      rw [hwaits, hacquired]
      exact ⟨rfl, rfl, .inl rfl⟩
    | fires harmed m_trigger ops_data m_manual_trigger hfires =>
      rw [hfires, hacquired]
      exact ⟨rfl, rfl, .inr rfl⟩

omit [Platform] in
/-- The counter comes to the decimation with each entry that is to be logged. -/
theorem logs_now_iff {d : DataLogger} {count : Nat} (hpos : 0 < d.m_config.decimation.toNat)
    (hcounter : d.m_decimation_counter.toNat = count % d.m_config.decimation.toNat) :
    (d.logs_now = true ↔ (count + 1) % d.m_config.decimation.toNat = 0) ∧
      (if d.logs_now then (0 : uint16_t) else d.m_decimation_counter + 1).toNat =
        (count + 1) % d.m_config.decimation.toNat := by
  have hlt := Nat.mod_lt count hpos
  have hmax := d.m_config.decimation.isLt
  have hnext : (d.m_decimation_counter + 1).toNat = count % d.m_config.decimation.toNat + 1 := by
    rw [← hcounter] at hlt ⊢
    bv_omega
  have hlogs : d.logs_now = true ↔
      d.m_config.decimation.toNat ≤ count % d.m_config.decimation.toNat + 1 := by
    rw [logs_now, decide_eq_true_eq, ge_iff_le, BitVec.le_def, hnext]
  have hwrap : (count + 1) % d.m_config.decimation.toNat =
      if count % d.m_config.decimation.toNat + 1 = d.m_config.decimation.toNat then 0
      else count % d.m_config.decimation.toNat + 1 := by
    rw [← Nat.mod_add_mod]
    split
    · rename_i hend
      rw [hend, Nat.mod_self]
    · exact Nat.mod_eq_of_lt (by omega)
  by_cases hnow : d.logs_now = true
  · have hend := hlogs.mp hnow
    rw [if_pos (hend.antisymm' hlt)] at hwrap
    rw [if_pos hnow, hwrap]
    exact ⟨iff_of_true hnow rfl, rfl⟩
  · have hmore := fun hle => hnow (hlogs.mpr hle)
    rw [if_neg fun hend => hmore hend.ge] at hwrap
    rw [if_neg hnow, hwrap, hnext]
    exact ⟨iff_of_false hnow (Nat.succ_ne_zero _), rfl⟩

/-- A call of `process` records a sample, when it acquires. -/
theorem Recorded.process {handler : Config} {config : Configuration} {max : Nat}
    {samples : List Sample} {d : DataLogger} (hpos : 0 < config.decimation.toNat)
    (h : Recorded handler config max samples d) (timebases : LoopId → Timebase) (memory : Memory) :
    Recorded handler config max
      (samples ++ if d.acquiring then [d.sample timebases memory] else [])
      (d.process handler timebases memory).1 := by
  cases hactive : d.m_state.active with
  | false =>
    rw [process_inactive hactive, acquiring, hactive, Bool.false_and, if_neg Bool.false_ne_true,
      List.append_nil]
    exact h
  | true =>
    cases herror : d.m_encoder.m_error with
    | true =>
      have hstops : d.acquiring = false := by
        rw [acquiring, RawFormatEncoder.error, herror, Bool.not_true, Bool.and_false]
      rw [process_error hactive herror, hstops, if_neg Bool.false_ne_true, List.append_nil]
      exact ⟨h.logged, h.failed, fun hinstalled => absurd hinstalled Bool.false_ne_true⟩
    | false =>
      have hruns : d.acquiring = true := by
        rw [acquiring, RawFormatEncoder.error, hactive, herror]
        rfl
      obtain ⟨hconfig, hcounter⟩ := h.installed (installed_of_active hactive)
      obtain ⟨hitems, hlogged⟩ := h.logged herror
      subst hconfig
      obtain ⟨hlogs, hnext⟩ := logs_now_iff hpos hcounter
      obtain ⟨hconfig', hcounter', hencoder⟩ :=
        process_acquires hactive herror handler timebases memory
      have hlog : Logged max (entry_size handler d.m_config)
          (log_of handler d.m_config (samples ++ [d.sample timebases memory]))
          (if d.logs_now then
            (d.m_encoder.encode_next_entry handler d.m_config (d.sample timebases memory).timebase
              d.m_owner memory).1
          else d.m_encoder) := by
        rw [log_of, every_append_singleton]
        by_cases hnow : d.logs_now = true
        · rw [if_pos hnow, if_pos (hlogs.mp hnow), List.map_append]
          exact hlogged.encode_next_entry (d.sample timebases memory)
            (length_entry_bytes hitems _ _ _)
        · rw [if_neg hnow, if_neg fun hturn => hnow (hlogs.mpr hturn), List.append_nil]
          exact hlogged
      have hafter : Logged max (entry_size handler d.m_config)
          (log_of handler d.m_config (samples ++ [d.sample timebases memory]))
          (d.process handler timebases memory).1.m_encoder := by
        rcases hencoder with hsame | hreset
        · rw [hsame]
          exact hlog
        · rw [hreset]
          exact hlog.reset_write_counter
      rw [hruns, if_pos rfl]
      refine ⟨fun _ => ⟨hitems, hafter⟩, fun hfailed => ?_, fun _ => ⟨hconfig', ?_⟩⟩
      · cases hafter.no_error.symm.trans hfailed
      · rw [hcounter', hnext, List.length_append, List.length_singleton]

/-- An accepted configuration starts with nothing recorded. -/
theorem configure_recorded {d : DataLogger} {handler : Config} {timebase : Option LoopId}
    {config_id : uint16_t} (hbool : codecs.encodable Platform.sizeof_bool)
    (hrpvs : ∀ rpv ∈ handler.get_rpvs_array, tools.is_supported_type rpv.type = true)
    (hsize : d.m_encoder.m_buffer_size < 2 ^ Platform.buffer_size_bits)
    (hvalid : (d.configure handler timebase config_id).m_config_valid = true) :
    Recorded handler d.m_config
      (d.m_encoder.m_buffer_size / entry_size handler d.m_config) []
      (d.configure handler timebase config_id) := by
  obtain ⟨_, _, hconfig, hencoder⟩ := configure_valid hvalid
  have hcounter : (d.configure handler timebase config_id).m_decimation_counter = 0 := by
    unfold configure
    simp only
    split <;> rfl
  refine ⟨fun herror => ?_, fun herror => ?_, fun _ => ⟨hconfig, ?_⟩⟩
  · rw [hencoder] at herror ⊢
    obtain ⟨hbuffer, hfits⟩ := (reset_no_error_iff _ handler d.m_config).mp herror
    have hsize' : (d.m_encoder.set_timebase timebase).m_buffer_size <
        2 ^ Platform.buffer_size_bits := hsize
    exact ⟨fun item hitem => (hfits.measurable item hitem).valid hbool hrpvs,
      reset_logged hsize' hbuffer hfits⟩
  · rw [hencoder]
    refine ⟨?_, rfl⟩
    obtain ⟨m_entry_size, m_error, hmeasured⟩ := measure_items_frame handler d.m_config.item_list
      (d.m_encoder.set_timebase timebase).emptied
    rw [RawFormatEncoder.entries, reset_eq, hmeasured, divide_buffer]
    simp only
    split <;> split <;> rfl
  · rw [hcounter]
    simp

end DataLogger

end datalogging

namespace MainHandler

open DataLogger

/-- A configuration that is not accepted keeps what was recorded. -/
theorem configure_datalog_kept {self : MainHandler} {loops : LoopId → LoopHandler}
    {request : Request} (hcode : (self.configure_datalog loops request).1 ≠ .OK) :
    Retained self.m_datalogging.datalogger (self.configure_datalog loops request).2.datalogger := by
  have hreset {code : ResponseCode} (hagain : code ≠ .ProcessAgain) (hok : code ≠ .OK)
      (d : Datalogging) : (reset_on_failure (code, d)).2.datalogger = d.datalogger.reset := by
    rw [reset_on_failure, if_pos ⟨hok, hagain⟩]
  cases howner : self.m_datalogging.owner with
  | some a =>
    rw [configure_datalog_of_owner howner]
    unfold request_release
    split <;> exact Retained.refl _
  | none =>
    rw [configure_datalog_of_free howner] at hcode ⊢
    unfold configure_datalogger at hcode ⊢
    simp only at hcode ⊢
    split
    · rename_i hdecoded
      rw [hreset (decode_configure_not_again _ _) hdecoded]
      exact Retained.reset _ _
    · rename_i hdecoded
      rw [if_neg hdecoded] at hcode
      split
      · rw [hreset (by simp) (by simp)]
        exact Retained.reset _ _
      · rename_i hloop
        rw [if_neg hloop] at hcode
        split
        · rw [hreset (by simp) (by simp)]
          exact Retained.reset _ _
        · rename_i hallowed
          rw [if_neg hallowed] at hcode
          split
          · rename_i hpermission
            rw [hreset (configuration_permission_not_again _ _) hpermission]
            exact Retained.reset _ _
          · rename_i hpermission
            rw [if_neg hpermission] at hcode
            split
            · rename_i hvalid
              rw [if_pos hvalid] at hcode
              exact absurd rfl hcode
            · rename_i hvalid
              rw [hreset (by simp) (by simp)]
              exact Retained.refused _ _ _ _ _ (Bool.eq_false_of_not_eq_true hvalid)

/-- Only an accepted configuration empties the ring. -/
theorem serve_request_kept {s : System} {stack : Stack}
    (hrefused : ¬(served s = some .ConfigureDatalog ∧ (configuration_result s).1 = .OK)) :
    Retained s.datalogger (serve_request s stack).datalogger := by
  obtain ⟨response, hdatalogging⟩ := serve_request_datalogging s stack
  have hdatalogger := congrArg Datalogging.datalogger hdatalogging
  change (serve_request s stack).datalogger = _ at hdatalogger
  rw [hdatalogger]
  have hrelease (d : Datalogging) : (request_release d).datalogger = d.datalogger := by
    unfold request_release
    split <;> rfl
  cases hserved : served s with
  | none => exact Retained.refl _
  | some subfunction =>
    cases subfunction with
    | ConfigureDatalog => exact configure_datalog_kept fun hok => hrefused ⟨hserved, hok⟩
    | ReadAcquisition =>
      obtain ⟨m_reader, hread⟩ := read_acquisition_datalogger s.datalogging response
      simp only [hread]
      exact Retained.reader _ _
    | ResetDatalogger =>
      simp only [reset_datalogger]
      split
      · rw [hrelease]
        exact Retained.refl _
      · exact Retained.reset _ _
    | ArmTrigger =>
      simp only [MainHandler.arm_trigger]
      split <;> exact Retained.refl _
    | DisarmTrigger =>
      simp only [MainHandler.disarm_trigger]
      split <;> exact Retained.refl _
    | GetSetup => exact Retained.refl _
    | GetStatus => exact Retained.refl _
    | GetAcquisitionMetadata => exact Retained.refl _

/-- The exchange with the loops keeps what was recorded. -/
theorem kept_exchanges (d : DataLogger) : System.Exchanges fun s => Retained d s.datalogger where
  frame s s' hframe h := by
    rw [hframe.datalogger]
    exact h
  message s id _ h := by
    rcases process_loop_datalogger s id with hsame | hreset
    · rw [hsame]
      exact h
    · rw [hreset]
      exact h.trans (Retained.reset _ _)
  logic s _ h := by
    rw [process_datalogging_logic_datalogger]
    exact h

end MainHandler

namespace LoopHandler

open DataLogger

/-- The messages to a loop keep what was recorded. -/
theorem informed_kept (s : System) (id : LoopId) (timestep_100ns : timediff_t) :
    Retained s.datalogger (informed s id timestep_100ns).datalogger := by
  rw [informed_datalogger]
  split
  · exact Retained.owner _ _
  · split
    · exact Retained.arm_trigger _
    · exact Retained.refl _
  · split
    · exact Retained.disarm_trigger _
    · exact Retained.refl _
  · split
    · exact Retained.owner _ _
    · exact Retained.refl _
  · exact Retained.refl _

end LoopHandler

end

end scrutiny
