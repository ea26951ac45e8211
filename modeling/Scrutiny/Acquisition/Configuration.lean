import Scrutiny.Datalogging.Reading
import Scrutiny.Ownership.Step

open foundation

namespace scrutiny

open datalogging protocol

variable [Platform]

namespace datalogging.DataLogger

/-- What a configuration that is found valid says of its parts. -/
structure Validated (handler : Config) (config : Configuration) : Prop where
  items_count : config.items_count ≠ 0
  max_signal : config.items_count ≤ Platform.datalogging_max_signal
  operand_count : config.trigger.operand_count.toNat ≤ MAX_OPERANDS
  decimation : config.decimation ≠ 0
  operands : ∀ operand ∈ config.operand_list, operand_valid handler operand = true
  items : ∀ item ∈ config.item_list, item_valid handler item = true

/-- A valid configuration is started with an empty ring. -/
theorem configure_valid {self : DataLogger} {handler : Config} {timebase : Option LoopId}
    {config_id : uint16_t}
    (hvalid : (self.configure handler timebase config_id).m_config_valid = true) :
    Validated handler self.m_config ∧
      (self.configure handler timebase config_id).m_state = .Configured ∧
      (self.configure handler timebase config_id).m_config = self.m_config ∧
      (self.configure handler timebase config_id).m_encoder =
        (self.m_encoder.set_timebase timebase).reset handler self.m_config := by
  unfold configure at hvalid ⊢
  simp only at hvalid ⊢
  split at hvalid
  · rename_i hchecks
    rw [if_pos hchecks]
    refine ⟨?_, rfl, rfl, rfl⟩
    simp only [Bool.and_eq_true, List.all_eq_true, sizes_valid, decide_eq_true_eq, bne_iff_ne,
      ne_eq] at hchecks
    obtain ⟨⟨⟨⟨⟨⟨⟨hmax, hcount⟩, hoperands⟩, _⟩, _⟩, hdecimation⟩, hoperand⟩, hitem⟩ := hchecks
    exact ⟨hcount, hmax, hoperands, hdecimation, hoperand, hitem⟩
  · rename_i hchecks
    exact absurd hvalid hchecks

end datalogging.DataLogger

namespace MainHandler

/-- The configuration that a request is decoded into, over the one there is. -/
def requested (self : MainHandler) (request : Request) : Configuration :=
  (CodecV1_0.decode_datalogging_configure_request request
    self.m_datalogging.datalogger.m_config).2.2

/-- What it takes for a configuration to be accepted. -/
structure Accepted (main : MainHandler) (request : Request)
    (result : ResponseCode × Datalogging) : Prop where
  owner : main.m_datalogging.owner = none
  decoded : (CodecV1_0.decode_datalogging_configure_request request
    main.m_datalogging.datalogger.m_config).1 = .OK
  permitted : configuration_permission main.m_config (main.requested request) = .OK
  datalogger : ∃ timebase config_id, result.2.datalogger =
    { main.m_datalogging.datalogger with m_config := main.requested request }.configure
      main.m_config timebase config_id
  valid : result.2.datalogger.m_config_valid = true

/-- A configuration waits for the release of the datalogger, is accepted, or leaves the
datalogger reset with whatever configuration was decoded so far. -/
inductive Attempts (main : MainHandler) (request : Request) (result : ResponseCode × Datalogging) :
    Prop
  | waits (hcode : result.1 = .ProcessAgain)
      (hsame : result.2.datalogger = main.m_datalogging.datalogger)
  | fails (hcode : result.1 ≠ .OK)
      (hreset : result.2.datalogger =
        { main.m_datalogging.datalogger with m_config := main.requested request }.reset)
  | refused (hcode : result.1 ≠ .OK) (timebase : Option LoopId) (config_id : uint16_t)
      (hreset : result.2.datalogger =
        ({ main.m_datalogging.datalogger with m_config := main.requested request }.configure
          main.m_config timebase config_id).reset)
  | accepted (hcode : result.1 = .OK) (haccepted : Accepted main request result)

theorem decode_configure_not_again (request : Request) (config : Configuration) :
    (CodecV1_0.decode_datalogging_configure_request request config).1 ≠ .ProcessAgain := by
  unfold CodecV1_0.decode_datalogging_configure_request
  simp only
  repeat' split
  all_goals simp

theorem configuration_permission_not_again (m_config : Config) (config : Configuration) :
    configuration_permission m_config config ≠ .ProcessAgain := by
  have hfailure {code : ResponseCode} (hcode : code ≠ .ProcessAgain) {codes : List ResponseCode}
      (hcodes : ∀ c ∈ codes, c ≠ .ProcessAgain) : first_failure code codes ≠ .ProcessAgain := by
    unfold first_failure
    cases hfound : codes.find? (· ≠ .OK) with
    | none => exact hcode
    | some c => exact hcodes c (List.mem_of_find?_eq_some hfound)
  refine hfailure (hfailure (by simp) ?_) ?_
  · intro c hc
    obtain ⟨operand, _, rfl⟩ := List.mem_map.mp hc
    unfold operand_permission
    repeat' split
    all_goals simp
  · intro c hc
    obtain ⟨item, _, rfl⟩ := List.mem_map.mp hc
    unfold item_permission
    repeat' split
    all_goals simp

theorem reset_on_failure_fails {self : MainHandler} {request : Request} {code : ResponseCode}
    (hok : code ≠ .OK) (hagain : code ≠ .ProcessAgain) (d : Datalogging)
    (hdatalogger : d.datalogger =
      { self.m_datalogging.datalogger with m_config := self.requested request }) :
    Attempts self request (reset_on_failure (code, d)) := by
  have hreset : reset_on_failure (code, d) = (code, { d with datalogger := d.datalogger.reset }) :=
    if_pos ⟨hok, hagain⟩
  rw [hreset]
  exact .fails hok (by rw [hdatalogger])

theorem configure_datalog_attempts (self : MainHandler) (loops : LoopId → LoopHandler)
    (request : Request) : Attempts self request (self.configure_datalog loops request) := by
  cases howner : self.m_datalogging.owner with
  | some a =>
    rw [configure_datalog_of_owner howner]
    refine .waits rfl ?_
    unfold request_release
    split <;> rfl
  | none =>
    rw [configure_datalog_of_free howner]
    unfold configure_datalogger
    simp only
    split
    · rename_i hdecoded
      exact reset_on_failure_fails hdecoded (decode_configure_not_again _ _) _ rfl
    · rename_i hdecoded
      split
      · exact reset_on_failure_fails (by simp) (by simp) _ rfl
      · split
        · exact reset_on_failure_fails (by simp) (by simp) _ rfl
        · split
          · rename_i hpermission
            exact reset_on_failure_fails hpermission (configuration_permission_not_again _ _) _ rfl
          · rename_i hpermission
            split
            · rename_i hvalid
              have hok (d : Datalogging) : reset_on_failure (ResponseCode.OK, d) = (.OK, d) := rfl
              rw [hok]
              exact .accepted rfl ⟨howner, not_not.mp hdecoded, not_not.mp hpermission,
                ⟨_, _, rfl⟩, hvalid⟩
            · exact .refused (by simp [reset_on_failure]) _ _ rfl

/-- Of the datalogger, reading an acquisition only moves the reader. -/
theorem read_acquisition_datalogger (d : Datalogging) (response : Response) :
    ∃ m_reader, (read_acquisition d response).2.datalogger = { d.datalogger with
      m_encoder := d.datalogger.m_encoder.set_reader m_reader } := by
  have hread (encoder : RawFormatEncoder) (max_size_8bits : Nat) :
      ∃ m_reader, (RawFormatReader.read_dilate_8bits encoder max_size_8bits).1 =
        encoder.set_reader m_reader := by
    unfold RawFormatReader.read_dilate_8bits
    simp only
    split
    · exact ⟨encoder.m_reader, rfl⟩
    · split <;> exact ⟨_, rfl⟩
  have hencoded (data : ResponseData.DataLogControl.ReadAcquisition) (encoder : RawFormatEncoder)
      (crc : uint32_t) : ∃ m_reader, (CodecV1_0.encode_response_datalogging_read_acquisition data
        encoder crc response).encoder = encoder.set_reader m_reader := by
    unfold CodecV1_0.encode_response_datalogging_read_acquisition
    split
    · exact ⟨encoder.m_reader, rfl⟩
    · exact hread _ _
  have hstarted : ∃ m_reader, (start_reading d).datalogger = { d.datalogger with
      m_encoder := d.datalogger.m_encoder.set_reader m_reader } := by
    unfold start_reading
    split
    · exact ⟨d.datalogger.m_encoder.m_reader, rfl⟩
    · exact ⟨_, rfl⟩
  unfold read_acquisition
  split
  · exact ⟨d.datalogger.m_encoder.m_reader, rfl⟩
  · split
    · obtain ⟨first, hfirst⟩ := hstarted
      obtain ⟨last, hlast⟩ := hencoded {
          acquisition_id := (start_reading d).datalogger.get_acquisition_id
          rolling_counter := (start_reading d).read_acquisition_rolling_counter }
        (start_reading d).datalogger.m_encoder (start_reading d).read_acquisition_crc
      refine ⟨last, ?_⟩
      simp only [hlast]
      rw [hfirst]
      rfl
    · exact ⟨d.datalogger.m_encoder.m_reader, rfl⟩

end MainHandler

/-- A property of the datalogger that all that is done to it preserves, apart from the
configurations that are accepted. -/
structure DataloggerInvariant (P : Config → DataLogger → Prop) : Prop where
  reset : ∀ handler (d : DataLogger) m_config, P handler d → P handler { d with m_config }.reset
  refused : ∀ handler (d : DataLogger) m_config timebase config_id, P handler d →
    P handler ({ d with m_config }.configure handler timebase config_id).reset
  reader : ∀ handler (d : DataLogger) m_reader, P handler d →
    P handler { d with m_encoder := d.m_encoder.set_reader m_reader }
  owner : ∀ handler (d : DataLogger) owner, P handler d → P handler (d.set_owner owner)
  arm_trigger : ∀ handler (d : DataLogger), P handler d → P handler d.arm_trigger
  disarm_trigger : ∀ handler (d : DataLogger), P handler d → P handler d.disarm_trigger
  process : ∀ handler (d : DataLogger) timebases memory, P handler d →
    P handler (d.process handler timebases memory).1

namespace DataloggerInvariant

open MainHandler

variable {P : Config → DataLogger → Prop}

theorem process_loop (hP : DataloggerInvariant P) {s : System} (id : LoopId)
    (h : P s.main.m_config s.datalogger) :
    P (MainHandler.process_loop s id).main.m_config
      (MainHandler.process_loop s id).datalogger := by
  cases hmsg : s.loop2main id with
  | none =>
    rw [process_loop_of_empty hmsg]
    exact h
  | some msg =>
    rw [process_loop_of_message hmsg]
    cases msg with
    | DATALOGGER_OWNERSHIP_RELEASED => exact hP.reset _ _ _ h
    | DATALOGGER_OWNERSHIP_TAKEN => exact h
    | DATALOGGER_DATA_ACQUIRED => exact h
    | DATALOGGER_STATUS_UPDATE update => exact h

theorem process_common (hP : DataloggerInvariant P) {s : System} (id : LoopId)
    (timestep_100ns : timediff_t) (h : P s.main.m_config s.datalogger) :
    P (LoopHandler.process_common s id timestep_100ns).main.m_config
      (LoopHandler.process_common s id timestep_100ns).datalogger := by
  have hmessage (loop : LoopHandler) : P s.main.m_config
      (loop.receive_message id s.datalogger).2 := by
    unfold LoopHandler.receive_message LoopHandler.process_message
    split
    · split
      · exact hP.owner _ _ _ h
      · split
        · exact hP.arm_trigger _ _ h
        · exact h
      · split
        · exact hP.disarm_trigger _ _ h
        · exact h
      · split
        · exact hP.owner _ _ _ h
        · exact h
    · exact h
  have hinformed : P (LoopHandler.informed s id timestep_100ns).main.m_config
      (LoopHandler.informed s id timestep_100ns).datalogger := hmessage _
  rw [LoopHandler.process_common_eq]
  unfold LoopHandler.run_datalogger
  split
  · exact hP.process _ _ _ _ hinformed
  · exact hinformed

theorem serve_request (hP : DataloggerInvariant P) {s : System} (stack : Stack)
    (h : P s.main.m_config s.datalogger)
    (haccepted : served s = some .ConfigureDatalog → (configuration_result s).1 = .OK →
      P s.main.m_config (configuration_result s).2.datalogger) :
    P (MainHandler.serve_request s stack).main.m_config
      (MainHandler.serve_request s stack).datalogger := by
  obtain ⟨response, hdatalogging⟩ := serve_request_datalogging s stack
  have hdatalogger : (MainHandler.serve_request s stack).datalogger =
      (MainHandler.serve_request s stack).datalogging.datalogger := rfl
  rw [serve_request_config, hdatalogger, hdatalogging]
  have hrelease (d : Datalogging) : (request_release d).datalogger = d.datalogger := by
    unfold request_release
    split <;> rfl
  cases hserved : served s with
  | none => exact h
  | some subfunction =>
    cases subfunction with
    | ConfigureDatalog =>
      have hattempts := configure_datalog_attempts s.main s.loops s.comm.m_active_request
      cases hattempts with
      | waits hcode hsame =>
        rw [configuration_result]
        simp only [hsame]
        exact h
      | fails hcode hreset =>
        rw [configuration_result]
        simp only [hreset]
        exact hP.reset _ _ _ h
      | refused hcode timebase config_id hreset =>
        rw [configuration_result]
        simp only [hreset]
        exact hP.refused _ _ _ _ _ h
      | accepted hcode _ => exact haccepted hserved hcode
    | ReadAcquisition =>
      obtain ⟨m_reader, hread⟩ := read_acquisition_datalogger s.datalogging response
      simp only [hread]
      exact hP.reader _ _ _ h
    | ResetDatalogger =>
      simp only [reset_datalogger]
      split
      · rw [hrelease]
        exact h
      · exact hP.reset _ _ _ h
    | ArmTrigger =>
      simp only [MainHandler.arm_trigger]
      split <;> exact h
    | DisarmTrigger =>
      simp only [MainHandler.disarm_trigger]
      split <;> exact h
    | GetSetup => exact h
    | GetStatus => exact h
    | GetAcquisitionMetadata => exact h

/-- The property holds in a run for as long as what is accepted has it. -/
theorem inductive_of (hP : DataloggerInvariant P) {Guard : System → Prop}
    (haccepted : ∀ s, Guard s → P s.main.m_config s.datalogger →
      served s = some .ConfigureDatalog → (configuration_result s).1 = .OK →
        P s.main.m_config (configuration_result s).2.datalogger) :
    System.Inductive (fun s => P s.main.m_config s.datalogger) Guard where
  frame s s' hframe h := by
    rw [hframe.config, hframe.datalogger]
    exact h
  message s id _ h := hP.process_loop id h
  logic s _ h := by
    rw [process_datalogging_logic_datalogger, (process_datalogging_logic_frame s).config]
    exact h
  request s stack hguard _ h := hP.serve_request stack h (haccepted s hguard h)
  loop s id timestep_100ns _ h := hP.process_common id timestep_100ns h

end DataloggerInvariant

end scrutiny
