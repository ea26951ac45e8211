import Scrutiny.Host
import Scrutiny.Ownership.Told
import Scrutiny.Requests.Bounds
import Scrutiny.Session.Lifecycle

open foundation

namespace scrutiny

open datalogging protocol

section

variable [Platform]

open MainHandler LoopHandler

/-- What a reading session reads: an acquisition, as the datalogger has it apart from where the
reader is. -/
structure Acquisition where
  acquisition_id : uint16_t
  encoder : RawFormatEncoder

namespace datalogging.DataLogger

def acquisition (d : DataLogger) : Acquisition where
  acquisition_id := d.get_acquisition_id
  encoder := d.m_encoder.set_reader ⟨0, false, false⟩

variable {d : DataLogger}

omit [Platform] in
theorem process_inactive_of_state (hengaged : ¬d.Engaged) (hstate : d.m_state ≠ .Configured) :
    d.m_state.active = false := by
  cases hd : d.m_state with
  | Configured => exact absurd hd hstate
  | Armed => exact absurd (.inl hd) hengaged
  | Triggered => exact absurd (.inr hd) hengaged
  | Idle | AcquisitionCompleted | Error => rfl

/-- A datalogger that is disarmed and runs has no acquisition. -/
theorem process_disarmed_state (hengaged : ¬d.Engaged) (handler : Config)
    (timebases : LoopId → Timebase) (memory : Memory) :
    (d.disarm_trigger.process handler timebases memory).1.m_state ≠ .AcquisitionCompleted := by
  by_cases hconfigured : d.disarm_trigger.m_state = .Configured
  · rcases process_of_configured hconfigured handler timebases memory with hstate | hstate
    · simp [hstate]
    · simp [hstate]
  · unfold disarm_trigger at hconfigured ⊢
    split at hconfigured
    · exact absurd rfl hconfigured
    · rename_i hother
      rw [if_neg hother, process_inactive (process_inactive_of_state hengaged hconfigured)]
      exact fun hcompleted => hother (.inr (.inl hcompleted))

end datalogging.DataLogger

/-- The bytes of a response to ReadAcquisition that tell which acquisition it is about. -/
def acquisition_id_of (response : Response) : List uint8_t := response.data.slice 2 2

omit [Platform] in
theorem acquisition_id_of_put (response : Response) {position : Nat} {bytes : List uint8_t}
    (hapart : position + bytes.length ≤ 2 ∨ 4 ≤ position) :
    acquisition_id_of (response.put position bytes) = acquisition_id_of response := by
  rcases hapart with hbefore | hafter
  · exact Buffer.slice_write_after response.data bytes hbefore
  · exact Buffer.slice_write_before response.data bytes hafter

omit [Platform] in
theorem acquisition_id_of_header (response : Response) (rolling_counter : uint8_t)
    (acquisition_id : uint16_t) :
    acquisition_id_of (response.put 1 (codecs.encode_8_bits_8bits rolling_counter ++
      codecs.encode_16_bits_big_endian_8bits acquisition_id)) =
        codecs.encode_16_bits_big_endian_8bits acquisition_id := by
  have hheader := Buffer.slice_write_same response.data 1 (codecs.encode_8_bits_8bits rolling_counter
    ++ codecs.encode_16_bits_big_endian_8bits acquisition_id)
  have hlength : (codecs.encode_8_bits_8bits rolling_counter ++
    codecs.encode_16_bits_big_endian_8bits acquisition_id).length = 1 + 2 := rfl
  rw [hlength, Buffer.slice_add] at hheader
  exact (List.append_inj hheader rfl).2

omit [Platform] in
/-- Neither the data nor the CRC is written over the header of the response. -/
theorem acquisition_id_of_filled (response : Response) (rolling_counter first : uint8_t)
    (acquisition_id : uint16_t) {bytes : List uint8_t} (crc_bytes : List uint8_t) (finished : Bool)
    (hbytes : bytes.length + 4 < 2 ^ 16) :
    let partly := ((response.put 1 (codecs.encode_8_bits_8bits rolling_counter ++
      codecs.encode_16_bits_big_endian_8bits acquisition_id)).put 4 bytes).set_length
        (bytes.length + 4)
    let filled := if finished then
        (partly.put partly.data_length.toNat crc_bytes).set_length (partly.data_length.toNat + 4)
      else partly
    acquisition_id_of (filled.put 0 (codecs.encode_8_bits_8bits first)) =
      codecs.encode_16_bits_big_endian_8bits acquisition_id := by
  intro partly filled
  have hpartly : acquisition_id_of partly =
      codecs.encode_16_bits_big_endian_8bits acquisition_id :=
    (acquisition_id_of_put _ (.inr (Nat.le_refl 4))).trans (acquisition_id_of_header _ _ _)
  have hend : 4 ≤ partly.data_length.toNat := by
    change 4 ≤ (BitVec.ofNat 16 (bytes.length + 4)).toNat
    rw [BitVec.toNat_ofNat, Nat.mod_eq_of_lt hbytes]
    omega
  rw [acquisition_id_of_put _ (.inl (by simp [codecs.encode_8_bits_8bits]))]
  cases finished with
  | true => exact (acquisition_id_of_put partly (.inr hend)).trans hpartly
  | false => exact hpartly

theorem protocol.CodecV1_0.acquisition_id_of_encoded
    (response_data : ResponseData.DataLogControl.ReadAcquisition) (encoder : RawFormatEncoder)
    (crc : uint32_t) (response : Response) :
    acquisition_id_of (encode_response_datalogging_read_acquisition response_data encoder crc
      response).response =
        codecs.encode_16_bits_big_endian_8bits response_data.acquisition_id := by
  have hfits : exceeds_tx_buffer 16 response = false := rfl
  have hlength := RawFormatReader.length_read_dilate_8bits encoder
    (buffer_size (response.data_max_length.toNat - 4))
  have hroom : buffer_size (response.data_max_length.toNat - 4) ≤
      response.data_max_length.toNat - 4 := Nat.mod_le _ _
  have hmax := response.data_max_length.isLt
  rw [encode_response_datalogging_read_acquisition, hfits, if_neg Bool.false_ne_true]
  exact acquisition_id_of_filled response _ _ _ _ _ (by
    simp only [Response.put_data_max_length]
    omega)

namespace MainHandler

/-- The request leaves the datalogging and the response as its command made them. -/
theorem execute_request_result (s : System) (stack : Stack) :
    let result := process_command (prepared s) stack s.comm.m_active_request (blank_response s)
    (execute_request s stack).datalogging = result.2.datalogging ∧
      (execute_request s stack).comm.m_active_response = { result.1.2 with
        response_code := result.1.1.code
        data_length := if result.1.1 ≠ .OK then 0 else result.1.2.data_length } :=
  ⟨rfl, rfl⟩

theorem execute_request_read {s : System} (hserved : served s = some .ReadAcquisition)
    (stack : Stack) :
    let result := read_acquisition s.datalogging (blank_response s)
    (execute_request s stack).datalogging = result.2 ∧
      (execute_request s stack).comm.m_active_response = { result.1.2 with
        response_code := result.1.1.code
        data_length := if result.1.1 ≠ .OK then 0 else result.1.2.data_length } := by
  have hexecuted := execute_request_result s stack
  unfold served at hserved
  split at hserved
  · rename_i hrequest
    obtain ⟨_, hcommand, hconfigured⟩ := hrequest
    have hconfigured' : (prepared s).main.m_config.is_datalogging_configured = true := hconfigured
    rw [process_command, hcommand] at hexecuted
    simp only [process_datalog_control, hconfigured', Bool.not_true, Bool.false_eq_true, if_false,
      hserved] at hexecuted
    exact hexecuted
  · cases hserved

/-- The response that the pending request, when it is to read the acquisition, is answered OK
with. -/
def read_response (s : System) (stack : Stack) : Option Response :=
  let response := (execute_request s stack).comm.m_active_response
  if served s = some .ReadAcquisition ∧ response.response_code = ResponseCode.OK.code then
    some response
  else none

theorem read_response_spec {s : System} {stack : Stack} {response : Response}
    (hread : read_response s stack = some response) :
    served s = some .ReadAcquisition ∧ s.datalogging.owner ≠ none ∧
      datalogging_data_available s.datalogging = true ∧
      acquisition_id_of response =
        codecs.encode_16_bits_big_endian_8bits s.datalogger.get_acquisition_id := by
  unfold read_response at hread
  simp only at hread
  split at hread
  · rename_i hanswered
    obtain ⟨hserved, hcode⟩ := hanswered
    obtain ⟨_, hresponse⟩ := execute_request_read hserved stack
    rw [hresponse] at hcode hread
    have hok := ResponseCode.code_injective hcode
    obtain rfl := Option.some.inj hread
    change _ ∧ _ ∧ _ ∧ acquisition_id_of (read_acquisition s.datalogging (blank_response s)).1.2 = _
    unfold read_acquisition at hok ⊢
    split at hok
    · cases hok
    · rename_i howner
      split at hok
      · rename_i havailable
        refine ⟨hserved, howner, havailable, ?_⟩
        rw [if_neg howner, if_pos havailable]
        refine (CodecV1_0.acquisition_id_of_encoded _ _ _ _).trans ?_
        unfold start_reading
        split <;> rfl
      · cases hok
  · cases hread

theorem read_acquisition_acquisition (d : Datalogging) (response : Response) :
    (read_acquisition d response).2.datalogger.acquisition = d.datalogger.acquisition := by
  obtain ⟨m_reader, hread⟩ := read_acquisition_datalogger d response
  rw [hread]
  rfl

theorem serve_request_read {s : System} (hserved : served s = some .ReadAcquisition)
    (stack : Stack) : (serve_request s stack).datalogging =
      (read_acquisition s.datalogging (blank_response s)).2 := by
  have hrequest : has_request s = true := by
    unfold served at hserved
    split at hserved
    · rename_i hrequest
      exact hrequest.1
    · cases hserved
  rw [serve_request, if_pos hrequest, (finish_request_frame _).2.2.1]
  exact (execute_request_read hserved stack).1

/-- A configuration ends the session, whether it is accepted or not. -/
theorem reading_of_configure (self : MainHandler) (loops : LoopId → LoopHandler)
    (request : Request) :
    (self.configure_datalog loops request).2.reading_in_progress = false := by
  cases howner : self.m_datalogging.owner with
  | some a =>
    rw [configure_datalog_of_owner howner]
    unfold request_release
    split <;> rfl
  | none =>
    rw [configure_datalog_of_free howner]
    obtain ⟨_, new_owner, hresult, _⟩ := self.configure_datalogger_spec loops request
      { self.m_datalogging with reading_in_progress := false }
    unfold reset_on_failure
    split <;> rw [hresult]

/-- A request that is not read from an acquisition leaves no session in progress. -/
theorem reading_of_read {d : Datalogging} {response : Response}
    (hidle : d.reading_in_progress = false)
    (hreading : (read_acquisition d response).2.reading_in_progress = true) :
    (read_acquisition d response).1.1 = .OK := by
  unfold read_acquisition at hreading ⊢
  split at hreading
  · rw [hidle] at hreading
    cases hreading
  · rename_i howner
    split at hreading
    · rename_i havailable
      rw [if_neg howner, if_pos havailable]
      exact of_decide_eq_true (Bool.and_eq_true_iff.mp hreading).1
    · cases hreading

/-- Only the answer to a request to read starts a session. -/
theorem reading_of_serve_request {s : System} {stack : Stack}
    (hreading : (serve_request s stack).datalogging.reading_in_progress = true) :
    s.datalogging.reading_in_progress = true ∨ (read_response s stack).isSome = true := by
  cases hbefore : s.datalogging.reading_in_progress with
  | true => exact .inl rfl
  | false =>
    right
    by_cases hread : served s = some .ReadAcquisition
    · obtain ⟨_, hresponse⟩ := execute_request_read hread stack
      rw [serve_request_read hread] at hreading
      unfold read_response
      simp only [hread, hresponse, reading_of_read hbefore hreading, true_and, if_true,
        Option.isSome_some]
    · obtain ⟨response, hdatalogging⟩ := serve_request_datalogging s stack
      have hunread : (serve_request s stack).datalogging.reading_in_progress = false := by
        rw [hdatalogging]
        cases hserved : served s with
        | none => exact hbefore
        | some subfunction =>
          cases subfunction with
          | ReadAcquisition => exact absurd hserved hread
          | ConfigureDatalog => exact reading_of_configure _ _ _
          | ArmTrigger =>
            unfold arm_trigger
            simp only
            split <;> exact hbefore
          | DisarmTrigger =>
            unfold disarm_trigger
            simp only
            split <;> exact hbefore
          | ResetDatalogger =>
            unfold reset_datalogger request_release
            simp only
            split
            · split <;> exact hbefore
            · exact hbefore
          | GetSetup => exact hbefore
          | GetStatus => exact hbefore
          | GetAcquisitionMetadata => exact hbefore
      cases hunread.symm.trans hreading

theorem process_datalogging_logic_reading (s : System) :
    (process_datalogging_logic s).datalogging.reading_in_progress =
      s.datalogging.reading_in_progress := by
  unfold process_datalogging_logic offer_ownership send_commands
  simp only
  repeat' split
  all_goals rfl

theorem begin_process_silent (s : System) (timestep_100ns : timediff_t) :
    ∀ i < (begin_process s timestep_100ns).loop_count,
      (begin_process s timestep_100ns).loop2main i = none := by
  intro i hi
  rw [begin_process_loop2main, if_pos (begin_process_loop_count s timestep_100ns ▸ hi)]

end MainHandler

namespace System

/-- A status that ends the session waits to be read. -/
def Ending (s : System) : Prop :=
  ∃ i update, s.Reported i update ∧ update.state ≠ .AcquisitionCompleted

/-- No session is in progress, or it ends before the next request. -/
def Over (s : System) : Prop := s.datalogging.reading_in_progress = false ∨ s.Ending

/-- The datalogger has the acquisition, and is about to log only if the main handler hears of it
first. -/
structure Holding (acquisition : Acquisition) (s : System) : Prop where
  same : s.datalogger.acquisition = acquisition
  state : ¬s.datalogger.Engaged
  logs : s.datalogger.m_state = .Configured → ∀ a, s.datalogger.m_owner = some a →
    s.loop2main a = none

/-- In a session, a loop does not complete an acquisition in the call that arms the datalogger,
and does not take a datalogger that logs. -/
def RespectsSession (s : System) : Event → Prop
  | .loop_process id timestep_100ns => s.datalogging.reading_in_progress = true →
      (s.datalogger.m_owner = some id → received s id = some .DATALOGGER_ARM_TRIGGER →
        (process_common s id timestep_100ns).datalogger.m_state ≠ .AcquisitionCompleted) ∧
      (received s id = some .TAKE_DATALOGGER_OWNERSHIP → s.datalogger.m_state ≠ .Configured)
  | _ => True

/-- The state that a request is handled in. -/
def handled (s : System) : Event → System
  | .process timestep_100ns _ => begin_process s timestep_100ns
  | _ => s

/-- The response that the call answers OK to a request to read the acquisition with. -/
def answered_read (s : System) : Event → Option Response
  | .process timestep_100ns stack => read_response (begin_process s timestep_100ns) stack
  | _ => none

/-- The call answers a request to read the acquisition, and no session is in progress. -/
def StartsSession (s : System) (e : Event) : Prop :=
  (answered_read s e).isSome = true ∧ (handled s e).datalogging.reading_in_progress = false

/-- The call answers a request to read the acquisition in a session. -/
def ContinuesSession (s : System) (e : Event) : Prop :=
  (answered_read s e).isSome = true ∧ (handled s e).datalogging.reading_in_progress = true

instance (s : System) (e : Event) : Decidable (StartsSession s e) :=
  inferInstanceAs (Decidable (_ ∧ _))

instance (s : System) (e : Event) : Decidable (ContinuesSession s e) :=
  inferInstanceAs (Decidable (_ ∧ _))

instance (s : System) (e : Event) : Decidable (RespectsSession s e) :=
  match e with
  | .loop_process id timestep_100ns => inferInstanceAs (Decidable
    (s.datalogging.reading_in_progress = true →
      (s.datalogger.m_owner = some id → received s id = some .DATALOGGER_ARM_TRIGGER →
        (process_common s id timestep_100ns).datalogger.m_state ≠ .AcquisitionCompleted) ∧
      (received s id = some .TAKE_DATALOGGER_OWNERSHIP → s.datalogger.m_state ≠ .Configured)))
  | .receive_data _ _ | .pop_data _ | .process _ _ | .application _ =>
    inferInstanceAs (Decidable True)

variable {s : System}

namespace Over

theorem frame (h : Over s) {s' : System} (hframe : DataloggingFrame s s') : Over s' := by
  rcases h with hidle | ⟨i, update, hreported, hstate⟩
  · left
    rw [hframe.datalogging]
    exact hidle
  · right
    refine ⟨i, update, ?_, hstate⟩
    rw [Reported, hframe.loop_count, hframe.loop2main]
    exact hreported

/-- The status that ends the session is read, or still waits. -/
theorem process_loop (h : Over s) (id : LoopId) : Over (MainHandler.process_loop s id) := by
  rcases h with hidle | ⟨i, update, hreported, hstate⟩
  · left
    cases hmsg : s.loop2main id with
    | none =>
      rw [process_loop_of_empty hmsg]
      exact hidle
    | some msg =>
      rw [process_loop_of_message hmsg, System.set_datalogging_datalogging]
      cases msg with
      | DATALOGGER_STATUS_UPDATE update =>
        change (if update.state ≠ .AcquisitionCompleted then false
          else s.datalogging.reading_in_progress) = false
        rw [hidle, ite_self]
      | DATALOGGER_OWNERSHIP_TAKEN => exact hidle
      | DATALOGGER_OWNERSHIP_RELEASED => exact hidle
      | DATALOGGER_DATA_ACQUIRED => exact hidle
  · by_cases hne : i = id
    · subst hne
      left
      rw [process_loop_of_message hreported.2, System.set_datalogging_datalogging]
      exact if_pos hstate
    · exact .inr ⟨i, update, hreported.of_process_loop hne, hstate⟩

theorem process_datalogging_logic (h : Over s) :
    Over (MainHandler.process_datalogging_logic s) := by
  rcases h with hidle | ⟨i, update, ⟨hi, hsaid⟩, hstate⟩
  · exact .inl ((process_datalogging_logic_reading s).trans hidle)
  · refine .inr ⟨i, update, ⟨?_, ?_⟩, hstate⟩
    · rw [(process_datalogging_logic_frame s).loop_count]
      exact hi
    · rw [process_datalogging_logic_loop2main]
      exact hsaid

theorem exchanges : Exchanges Over where
  frame _ _ hframe h := h.frame hframe
  message _ id _ h := h.process_loop id
  logic _ _ h := h.process_datalogging_logic

/-- Without a message to read, a session that is over is not in progress. -/
theorem idle (h : Over s) (hsilent : ∀ i < s.loop_count, s.loop2main i = none) :
    s.datalogging.reading_in_progress = false := by
  rcases h with hidle | ⟨i, update, ⟨hi, hsaid⟩, _⟩
  · exact hidle
  · cases (hsilent i hi).symm.trans hsaid

theorem process_common (h : Over s) (id : LoopId) (timestep_100ns : timediff_t) :
    Over (LoopHandler.process_common s id timestep_100ns) := by
  rcases h with hidle | ⟨i, update, hreported, hstate⟩
  · left
    rw [process_common_datalogging]
    exact hidle
  · exact .inr ⟨i, update, hreported.of_process_common id timestep_100ns, hstate⟩

/-- Only a request to read makes another session. -/
theorem step (h : Over s) (hready : s.main.Ready) {e : Event} (hnot : ¬StartsSession s e) :
    Over (System.step s e) := by
  cases e with
  | receive_data data len => exact h.frame ⟨rfl, rfl, rfl⟩
  | pop_data len => exact exchanges.pop_data h len
  | process timestep_100ns stack =>
    have hbegun := exchanges.begin_process h timestep_100ns
    have hsilent := begin_process_silent s timestep_100ns
    rw [System.step, process_eq hready.enabled]
    refine exchanges.end_process (.inl ?_)
    by_contra hreading
    have hidle := hbegun.idle hsilent
    rcases reading_of_serve_request (Bool.of_not_eq_false hreading) with hbefore | hread
    · cases hidle.symm.trans hbefore
    · exact hnot ⟨hread, hidle⟩
  | loop_process id timestep_100ns =>
    rw [System.step]
    split
    · exact h.process_common id timestep_100ns
    · exact h
  | application bytes => exact h.frame ⟨rfl, rfl, rfl⟩

end Over

namespace Holding

variable {acquisition : Acquisition}

theorem frame (h : Holding acquisition s) {s' : System} (hframe : DataloggingFrame s s') :
    Holding acquisition s' := by
  refine ⟨?_, ?_, ?_⟩
  · rw [hframe.datalogger]
    exact h.same
  · rw [hframe.datalogger]
    exact h.state
  · rw [hframe.datalogger, hframe.loop2main]
    exact h.logs

/-- What is done to the datalogger leaves the acquisition alone, and at most resets the rest. -/
theorem keep (h : Holding acquisition s) {s' : System}
    (hsame : s'.datalogger.acquisition = s.datalogger.acquisition)
    (hstate : s'.datalogger.m_state = s.datalogger.m_state ∨ s'.datalogger.m_state = .Idle)
    (howner : s'.datalogger.m_owner = s.datalogger.m_owner)
    (hslots : ∀ a, s.datalogger.m_owner = some a → s.loop2main a = none → s'.loop2main a = none) :
    Holding acquisition s' := by
  rcases hstate with hkept | hidle
  · refine ⟨hsame.trans h.same, ?_, ?_⟩
    · rw [DataLogger.Engaged, hkept]
      exact h.state
    · rw [hkept, howner]
      exact fun hlogs a ha => hslots a ha (h.logs hlogs a ha)
  · refine ⟨hsame.trans h.same, DataLogger.not_engaged_of_idle hidle, fun hlogs => ?_⟩
    cases hidle.symm.trans hlogs

theorem process_loop (h : Holding acquisition s) (id : LoopId) :
    Holding acquisition (MainHandler.process_loop s id) := by
  have hslots (i : LoopId) (_ : s.datalogger.m_owner = some i) (hempty : s.loop2main i = none) :
      (MainHandler.process_loop s id).loop2main i = none := by
    rw [process_loop_loop2main]
    split
    · rfl
    · exact hempty
  have howner := (process_loop_keeps s id).2
  rcases process_loop_datalogger s id with hsame | hreset
  · exact h.keep (by rw [hsame]) (.inl (by rw [hsame])) howner hslots
  · exact h.keep (by rw [hreset]; rfl) (.inr (by rw [hreset]; rfl)) howner hslots

theorem exchanges (acquisition : Acquisition) : Exchanges (Holding acquisition) where
  frame _ _ hframe h := h.frame hframe
  message _ id _ h := h.process_loop id
  logic s _ h := by
    refine h.keep ?_ (.inl ?_) ?_ ?_
    · rw [process_datalogging_logic_datalogger]
    · rw [process_datalogging_logic_datalogger]
    · rw [process_datalogging_logic_datalogger]
    · intro i _ hempty
      rw [process_datalogging_logic_loop2main]
      exact hempty

/-- A request to configure ends the session, and no other changes the acquisition. -/
theorem serve_request (h : Holding acquisition s) (stack : Stack) :
    (MainHandler.serve_request s stack).datalogging.reading_in_progress = false ∨
      Holding acquisition (MainHandler.serve_request s stack) := by
  obtain ⟨response, hdatalogging⟩ := serve_request_datalogging s stack
  have howner := (serve_request_ownership s stack).2.2.1
  have hslots (i : LoopId) (_ : s.datalogger.m_owner = some i) (hempty : s.loop2main i = none) :
      (MainHandler.serve_request s stack).loop2main i = none := by
    rw [serve_request_loop2main]
    exact hempty
  have hkeep (hdatalogger : (MainHandler.serve_request s stack).datalogger = s.datalogger) :
      Holding acquisition (MainHandler.serve_request s stack) :=
    h.keep (by rw [hdatalogger]) (.inl (by rw [hdatalogger])) howner hslots
  have hdatalogger := congrArg Datalogging.datalogger hdatalogging
  change (MainHandler.serve_request s stack).datalogger = _ at hdatalogger
  cases hserved : served s with
  | none =>
    rw [hserved] at hdatalogger
    exact .inr (hkeep hdatalogger)
  | some subfunction =>
    rw [hserved] at hdatalogger hdatalogging
    cases subfunction with
    | ConfigureDatalog =>
      left
      rw [hdatalogging]
      exact reading_of_configure _ _ _
    | ArmTrigger =>
      refine .inr (hkeep (hdatalogger.trans ?_))
      unfold arm_trigger
      simp only
      split <;> rfl
    | DisarmTrigger =>
      refine .inr (hkeep (hdatalogger.trans ?_))
      unfold disarm_trigger
      simp only
      split <;> rfl
    | ReadAcquisition =>
      obtain ⟨m_reader, hread⟩ := read_acquisition_datalogger s.datalogging response
      refine .inr (h.keep ?_ (.inl ?_) howner hslots)
      · rw [hdatalogger]
        exact read_acquisition_acquisition s.datalogging response
      · rw [hdatalogger, hread]
        rfl
    | ResetDatalogger =>
      unfold reset_datalogger at hdatalogger
      simp only at hdatalogger
      split at hdatalogger
      · refine .inr (hkeep (hdatalogger.trans ?_))
        unfold request_release
        split <;> rfl
      · exact .inr (h.keep (by rw [hdatalogger]; rfl) (.inr (by rw [hdatalogger]; rfl)) howner
          hslots)
    | GetSetup => exact .inr (hkeep hdatalogger)
    | GetStatus => exact .inr (hkeep hdatalogger)
    | GetAcquisitionMetadata => exact .inr (hkeep hdatalogger)

/-- A datalogger that neither logs nor waits for its trigger stays as it is when it runs. -/
theorem rest (h : Holding acquisition s) (owner : Option LoopId)
    (hstate : s.datalogger.m_state ≠ .Configured) {s' : System} {handler : Config}
    {timebases : LoopId → Timebase} {memory : Memory} (hdatalogger : s'.datalogger =
      ((s.datalogger.set_owner owner).process handler timebases memory).1) :
    Holding acquisition s' := by
  have hinactive : (s.datalogger.set_owner owner).m_state.active = false :=
    DataLogger.process_inactive_of_state h.state hstate
  rw [DataLogger.process_inactive hinactive] at hdatalogger
  refine ⟨?_, ?_, ?_⟩
  · rw [hdatalogger]
    exact h.same
  · rw [hdatalogger]
    exact h.state
  · rw [hdatalogger]
    exact fun hlogs => absurd hlogs hstate

/-- A loop that does not run the datalogger lets it be. -/
theorem of_stranger (h : Holding acquisition s) {id : LoopId} {timestep_100ns : timediff_t}
    (hstranger : (informed s id timestep_100ns).datalogger.m_owner ≠ some id) :
    Holding acquisition (LoopHandler.process_common s id timestep_100ns) := by
  have hdatalogger := informed_datalogger s id timestep_100ns
  have howner := (informed_spec s id timestep_100ns).1
  rw [process_common_eq, run_datalogger_of_stranger hstranger]
  rw [howner] at hstranger
  have hkeep (hsame : (informed s id timestep_100ns).datalogger = s.datalogger)
      (hne : s.datalogger.m_owner ≠ some id) :
      Holding acquisition (informed s id timestep_100ns) := by
    refine h.keep (by rw [hsame]) (.inl (by rw [hsame])) (by rw [hsame]) fun a ha hempty => ?_
    rw [informed_loop2main_of_ne s id timestep_100ns]
    · exact hempty
    · rintro rfl
      exact hne ha
  cases hreceived : received s id with
  | none =>
    rw [hreceived] at hdatalogger hstranger
    exact hkeep hdatalogger hstranger
  | some command =>
    rw [hreceived] at hdatalogger hstranger
    cases command with
    | TAKE_DATALOGGER_OWNERSHIP => exact absurd rfl hstranger
    | DATALOGGER_ARM_TRIGGER | DATALOGGER_DISARM_TRIGGER =>
      have howns : owns_datalogger id s.datalogger = false := decide_eq_false hstranger
      simp only [howns, Bool.false_eq_true, if_false] at hdatalogger
      exact hkeep hdatalogger hstranger
    | RELEASE_DATALOGGER_OWNERSHIP =>
      by_cases hmine : s.datalogger.m_owner = some id
      · have howns : owns_datalogger id s.datalogger = true := decide_eq_true hmine
        simp only [howns, if_true] at hdatalogger
        refine ⟨?_, ?_, ?_⟩
        · rw [hdatalogger]
          exact h.same
        · rw [hdatalogger]
          exact h.state
        · rw [hdatalogger]
          exact fun _ _ hnone => nomatch hnone
      · have howns : owns_datalogger id s.datalogger = false := decide_eq_false hmine
        simp only [howns, Bool.false_eq_true, if_false] at hdatalogger
        exact hkeep hdatalogger hmine

/-- A loop that runs the datalogger and got no message goes on with it. -/
theorem of_owner (h : Holding acquisition s) {id : LoopId} (hid : id < s.loop_count)
    (howner : s.datalogger.m_owner = some id) (hreceived : received s id = none)
    (timestep_100ns : timediff_t) :
    (LoopHandler.process_common s id timestep_100ns).Ending ∨
      Holding acquisition (LoopHandler.process_common s id timestep_100ns) := by
  obtain ⟨hinformed, _, hslot⟩ := informed_spec s id timestep_100ns
  have hsame := informed_datalogger s id timestep_100ns
  rw [hreceived] at hinformed hslot hsame
  have howns := hinformed.trans howner
  have hdatalogger := run_datalogger_of_owner howns
  rw [hsame] at hdatalogger
  by_cases hstate : s.datalogger.m_state = .Configured
  · left
    have hroom : (informed s id timestep_100ns).loop2main id = none :=
      hslot.trans (by rw [h.logs hstate id howner]; rfl)
    have hrest : (LoopHandler.process_common s id timestep_100ns).datalogger.m_state ≠
        .AcquisitionCompleted := by
      rw [process_common_eq, hdatalogger]
      rcases DataLogger.process_of_configured hstate (informed s id timestep_100ns).main.m_config
        (timebases (informed s id timestep_100ns)) (informed s id timestep_100ns).memory with
        hafter | hafter
      · simp [hafter]
      · simp [hafter]
    refine ⟨id, _, ⟨process_common_loop_count s id timestep_100ns ▸ hid,
      run_datalogger_tells howns hroom hrest⟩, ?_⟩
    rw [status_update_state]
    exact hrest
  · exact .inr (h.rest s.datalogger.m_owner hstate hdatalogger)

/-- What the loops do to an acquisition that is being read: nothing, or they say so. -/
theorem process_common (h : Holding acquisition s)
    (hreading : s.datalogging.reading_in_progress = true) {id : LoopId} (hid : id < s.loop_count)
    {timestep_100ns : timediff_t} (hrespects : RespectsSession s (.loop_process id timestep_100ns)) :
    (LoopHandler.process_common s id timestep_100ns).Ending ∨
      Holding acquisition (LoopHandler.process_common s id timestep_100ns) := by
  let after := LoopHandler.process_common s id timestep_100ns
  obtain ⟨harm, htake⟩ := hrespects hreading
  have hcount : id < after.loop_count := process_common_loop_count s id timestep_100ns ▸ hid
  by_cases howns : (informed s id timestep_100ns).datalogger.m_owner = some id
  · have hdatalogger := run_datalogger_of_owner howns
    rw [informed_datalogger] at hdatalogger
    rw [(informed_spec s id timestep_100ns).1] at howns
    cases hreceived : received s id with
    | none =>
      rw [hreceived] at howns
      exact h.of_owner hid howns hreceived timestep_100ns
    | some command =>
      rw [hreceived] at howns hdatalogger
      cases command with
      | TAKE_DATALOGGER_OWNERSHIP => exact .inr (h.rest (some id) (htake hreceived) hdatalogger)
      | DATALOGGER_ARM_TRIGGER =>
        have hstate := harm howns hreceived
        exact .inl ⟨id, _, ⟨hcount, commanded_tells hreceived howns rfl hstate⟩, by
          rwa [status_update_state]⟩
      | DATALOGGER_DISARM_TRIGGER =>
        have hmine : owns_datalogger id s.datalogger = true := decide_eq_true howns
        simp only [hmine, if_true] at hdatalogger
        have hstate : after.datalogger.m_state ≠ .AcquisitionCompleted := by
          change (run_datalogger (informed s id timestep_100ns) id).datalogger.m_state ≠ _
          rw [hdatalogger]
          exact DataLogger.process_disarmed_state h.state _ _ _
        exact .inl ⟨id, _, ⟨hcount, commanded_tells hreceived howns rfl hstate⟩, by
          rwa [status_update_state]⟩
      | RELEASE_DATALOGGER_OWNERSHIP =>
        simp only [owner_after] at howns
        split at howns
        · cases howns
        · rename_i hother
          exact absurd howns hother
  · exact .inr (h.of_stranger howns)

end Holding

/-- A session that goes on has its acquisition. -/
def InSession (acquisition : Acquisition) (s : System) : Prop := Over s ∨ Holding acquisition s

theorem InSession.process_common {acquisition : Acquisition} (h : InSession acquisition s)
    {id : LoopId} (hid : id < s.loop_count) {timestep_100ns : timediff_t}
    (hrespects : RespectsSession s (.loop_process id timestep_100ns)) :
    InSession acquisition (LoopHandler.process_common s id timestep_100ns) := by
  rcases h with hover | hholding
  · exact .inl (hover.process_common id timestep_100ns)
  · cases hreading : s.datalogging.reading_in_progress with
    | false =>
      have hidle : Over s := .inl hreading
      exact .inl (hidle.process_common id timestep_100ns)
    | true => exact (hholding.process_common hreading hid hrespects).imp_left Or.inr

theorem InSession.step {acquisition : Acquisition} (h : InSession acquisition s)
    (hready : s.main.Ready) {e : Event} (hnot : ¬StartsSession s e)
    (hrespects : RespectsSession s e) : InSession acquisition (System.step s e) := by
  rcases h with hover | hholding
  · exact .inl (hover.step hready hnot)
  · cases e with
    | receive_data data len => exact .inr (hholding.frame ⟨rfl, rfl, rfl⟩)
    | pop_data len => exact .inr ((Holding.exchanges acquisition).pop_data hholding len)
    | process timestep_100ns stack =>
      have hbegun := (Holding.exchanges acquisition).begin_process hholding timestep_100ns
      rw [System.step, process_eq hready.enabled]
      rcases hbegun.serve_request stack with hidle | hserved
      · exact .inl (Over.exchanges.end_process (.inl hidle))
      · exact .inr ((Holding.exchanges acquisition).end_process hserved)
    | loop_process id timestep_100ns =>
      rw [System.step]
      split
      · rename_i hid
        exact InSession.process_common (.inr hholding) hid hrespects
      · exact .inr hholding
    | application bytes => exact .inr (hholding.frame ⟨rfl, rfl, rfl⟩)

theorem answered_read_id {e : Event} {response : Response}
    (hread : answered_read s e = some response) :
    acquisition_id_of response = codecs.encode_16_bits_big_endian_8bits
      (handled s e).datalogger.acquisition.acquisition_id := by
  cases e with
  | receive_data | pop_data | loop_process | application => cases hread
  | process timestep_100ns stack => exact (read_response_spec hread).2.2.2

/-- The call that starts a session has a completed acquisition, as far as the main handler knows,
and then it is not one that goes on by itself. -/
theorem StartsSession.holding (hreachable : Reachable s) {timestep_100ns : timediff_t}
    {stack : Stack} (hstart : StartsSession s (.process timestep_100ns stack)) :
    Holding (begin_process s timestep_100ns).datalogger.acquisition
      (System.step s (.process timestep_100ns stack)) := by
  let begun := begin_process s timestep_100ns
  have hready := hreachable.accounted.ready
  have hsilent := begin_process_silent s timestep_100ns
  obtain ⟨first, hfirst⟩ := Option.isSome_iff_exists.mp hstart.1
  obtain ⟨hread, _, havailable, _⟩ := read_response_spec hfirst
  have hcompleted : begun.datalogging.threadsafe_data.datalogger_state = .AcquisitionCompleted :=
    eq_of_beq havailable
  have htold : Told begun := Told.invariant.begin_process hreachable.told timestep_100ns
  have howner_lt := owner_lt_inductive.begin_process hreachable.accounted.owner_lt timestep_100ns
  have hbegun : Holding begun.datalogger.acquisition begun := by
    refine ⟨rfl, fun hengaged => ?_, fun _ a ha => hsilent a (howner_lt a ha)⟩
    rcases htold.known hengaged with hknown | ⟨i, update, hi, hsaid⟩
    · exact hknown hcompleted
    · cases (hsilent i hi).symm.trans hsaid
  have hserved : Holding begun.datalogger.acquisition (MainHandler.serve_request begun stack) := by
    obtain ⟨m_reader, hdatalogger⟩ :=
      read_acquisition_datalogger begun.datalogging (blank_response begun)
    rw [← serve_request_read hread stack] at hdatalogger
    refine hbegun.keep ?_ (.inl ?_) (serve_request_ownership begun stack).2.2.1 ?_
    · exact (congrArg DataLogger.acquisition hdatalogger).trans rfl
    · exact (congrArg DataLogger.m_state hdatalogger).trans rfl
    · intro a _ hempty
      rw [serve_request_loop2main]
      exact hempty
  rw [System.step, process_eq hready.enabled]
  exact (Holding.exchanges _).end_process hserved

/-- While a session goes on to another answer, the datalogger has the acquisition. -/
theorem holding_of_continues {acquisition : Acquisition} (h : InSession acquisition s)
    (hready : s.main.Ready) {events : List Event}
    (hsession : Along System.step (fun s e => ¬StartsSession s e) s events)
    (hrespects : Along System.step RespectsSession s events)
    (hlast : ¬Over (run System.step s events)) :
    Always System.step (Holding acquisition) s events := by
  have hstays {s : System} {events : List Event} (hover : Over s) (hready : s.main.Ready)
      (hsession : Along System.step (fun s e => ¬StartsSession s e) s events) :
      Over (run System.step s events) := by
    induction events generalizing s with
    | nil => exact hover
    | cons e events ih =>
      exact ih (hover.step hready hsession.1) (step_ready hready e) hsession.2
  have hnow {s : System} {events : List Event} (h : InSession acquisition s)
      (hready : s.main.Ready)
      (hsession : Along System.step (fun s e => ¬StartsSession s e) s events)
      (hlast : ¬Over (run System.step s events)) : Holding acquisition s :=
    h.resolve_left fun hover => hlast (hstays hover hready hsession)
  induction events generalizing s with
  | nil => exact hnow h hready hsession hlast
  | cons e events ih =>
    exact ⟨hnow h hready hsession hlast, ih (h.step hready hsession.1 hrespects.1)
      (step_ready hready e) hsession.2 hrespects.2 hlast⟩

/-- From the answer that starts a session to one that continues it, the acquisition stays. -/
theorem StartsSession.same_acquisition {e : Event} (hstart : StartsSession s e) (hreachable : Reachable s)
    {events : List Event}
    (hsession : Along System.step (fun s e => ¬StartsSession s e) (System.step s e) events)
    (hrespects : Along System.step RespectsSession (System.step s e) events) {e' : Event}
    (hcontinues : ContinuesSession (run System.step (System.step s e) events) e') :
    let last := run System.step (System.step s e) events
    let acquisition := (handled s e).datalogger.acquisition
    Always System.step (fun s' => s'.datalogger.acquisition = acquisition) (System.step s e)
        events ∧
      (handled last e').datalogger.acquisition = acquisition ∧
      (answered_read last e').map acquisition_id_of =
        (answered_read s e).map acquisition_id_of := by
  intro last acquisition
  cases e with
  | receive_data | pop_data | loop_process | application => cases hstart.1
  | process timestep_100ns stack =>
    cases e' with
    | receive_data | pop_data | loop_process | application => cases hcontinues.1
    | process timestep_100ns' stack' =>
      have hready := step_ready hreachable.accounted.ready (.process timestep_100ns stack)
      have hholding := hstart.holding hreachable
      have hgoing : ¬Over last := by
        intro hover
        have hidle := (Over.exchanges.begin_process hover timestep_100ns').idle
          (begin_process_silent last timestep_100ns')
        cases hidle.symm.trans hcontinues.2
      have halways := holding_of_continues (.inr hholding) hready hsession hrespects hgoing
      have hlast : (handled last (.process timestep_100ns' stack')).datalogger.acquisition =
          acquisition :=
        ((Holding.exchanges acquisition).begin_process halways.last timestep_100ns').same
      refine ⟨halways.mono fun _ hheld => hheld.same, hlast, ?_⟩
      obtain ⟨first, hfirst⟩ := Option.isSome_iff_exists.mp hstart.1
      obtain ⟨later, hlater⟩ := Option.isSome_iff_exists.mp hcontinues.1
      rw [hfirst, hlater, Option.map_some, Option.map_some, answered_read_id hfirst,
        answered_read_id hlater, hlast]

/-- As long as no loop completes an acquisition in the call that arms the datalogger, and none
takes it while it logs, a session reads one acquisition: it stays as it is from the answer that
starts the session to any later one, and each tells its number. -/
theorem one_acquisition (hreachable : Reachable s) {e : Event} (hstart : StartsSession s e)
    {events : List Event}
    (hsession : Along System.step (fun s e => ¬StartsSession s e) (System.step s e) events)
    (hrespects : Along System.step RespectsSession (System.step s e) events) {e' : Event}
    (hcontinues : ContinuesSession (run System.step (System.step s e) events) e') :
    let last := run System.step (System.step s e) events
    let acquisition := (handled s e).datalogger.acquisition
    Always System.step (fun s' => s'.datalogger.acquisition = acquisition) (System.step s e)
        events ∧
      (handled last e').datalogger.acquisition = acquisition ∧
      (answered_read last e').map acquisition_id_of =
        (answered_read s e).map acquisition_id_of :=
  hstart.same_acquisition hreachable hsession hrespects hcontinues

end System

end

section

attribute [local instance] host.platform

/-- A target whose acquisitions take two responses to read. -/
def two_responses : Config := { host.config 32 [] host.none_forbidden with
  m_datalogger_buffer_size := 32
  m_datalogger_buffer_size_lt := by decide }

def loop_turn : List Event := [.loop_process 0 0, .process 0 host.stack]

/-- Entries of 16 bytes, none of them after the trigger, which fires at once. -/
def before_trigger : List uint8_t :=
  [0, 0, 1, 0, 1, 255] ++ List.replicate 4 0 ++ [0] ++ List.replicate 4 0 ++ [0] ++ [1, 0] ++
    codecs.encode_address_big_endian_8bits 0x1000 ++ [16]

/-- An acquisition is completed, and a request to read it is received. -/
def completed_events : List Event :=
  host.connect ++ host.exchange 5 2 before_trigger ++ loop_turn ++ loop_turn ++ loop_turn ++
    host.exchange 5 3 [] ++ loop_turn ++ loop_turn ++ [host.receive (host.frame 5 7 [])]

def acquired : System := run System.step (MainHandler.init host.zeroed two_responses).2 completed_events

theorem reachable_acquired : System.Reachable acquired :=
  ⟨_, completed_events, ⟨host.zeroed, two_responses, Prod.ext (by decide +kernel) rfl⟩, rfl⟩

/-- The response is sent, and the next one asked for while the loop runs. -/
def read_on : List Event :=
  [.pop_data 0xFFFF, .loop_process 0 0, host.receive (host.frame 5 7 [])]

def first_read : System := System.step acquired (.process 0 host.stack)

theorem acquisition_read_in_two :
    (System.answered_read (run System.step first_read read_on) (.process 0 host.stack)).map
        acquisition_id_of =
      (System.answered_read acquired (.process 0 host.stack)).map acquisition_id_of :=
  (System.one_acquisition reachable_acquired (by decide +kernel) (by decide +kernel)
    (by decide +kernel) (by decide +kernel)).2.2

end

end scrutiny
