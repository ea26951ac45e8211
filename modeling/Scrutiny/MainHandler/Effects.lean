import Scrutiny.System

open foundation

namespace scrutiny

open protocol

namespace MainHandler

variable [Platform]

/-- A connection request that opens a session. -/
def accepts_connect (comm : CommHandler) (request : Request) : Bool :=
  decide (CommandId.cast request.command_id = some .CommControl) &&
    decide (CommControl.Subfunction.cast request.subfunction_id = some .Connect) &&
    (CodecV1_0.decode_request_comm_connect request).isSome && comm.m_enabled && !comm.is_connected

/-- The comm handler after a heartbeat, accepted or not. -/
def Beats (before after : CommHandler) : Prop :=
  ∃ timestamp challenge received, after = { before with
    m_heartbeat_timestamp := timestamp
    m_last_heartbeat_challenge := challenge
    m_first_heartbeat_received := received }

omit [Platform] in
theorem Beats.refl (comm : CommHandler) : Beats comm comm :=
  ⟨comm.m_heartbeat_timestamp, comm.m_last_heartbeat_challenge, comm.m_first_heartbeat_received,
    rfl⟩

omit [Platform] in
theorem heartbeat_beats (comm : CommHandler) (timebase : Timebase) (challenge : uint16_t) :
    Beats comm (comm.heartbeat timebase challenge).1 := by
  unfold CommHandler.heartbeat
  split
  · exact Beats.refl comm
  · split
    · exact ⟨_, _, _, rfl⟩
    · exact Beats.refl comm

theorem comm_heartbeat_beats (self : MainHandler) (request : Request) (response : Response) :
    Beats self.m_comm_handler (self.comm_heartbeat request response).2 := by
  unfold comm_heartbeat
  split
  · exact Beats.refl _
  · rename_i request_data _
    split
    · exact Beats.refl _
    · have hbeats := heartbeat_beats self.m_comm_handler self.m_timebase request_data.challenge
      split <;> rename_i hresult <;> rw [hresult] at hbeats <;> exact hbeats

omit [Platform] in
theorem connect_refused (comm : CommHandler) (timebase : Timebase)
    (hrefused : (!comm.m_enabled || comm.m_session_active) = true) :
    comm.connect timebase = (comm, false) := by
  rw [CommHandler.connect, if_pos hrefused]

theorem comm_connect_comm (self : MainHandler) (request : Request) (response : Response) :
    (self.comm_connect request response).2 =
      if (CodecV1_0.decode_request_comm_connect request).isSome && self.m_comm_handler.m_enabled &&
          !self.m_comm_handler.is_connected then
        (self.m_comm_handler.connect self.m_timebase).1
      else self.m_comm_handler := by
  unfold comm_connect
  cases hdecode : CodecV1_0.decode_request_comm_connect request with
  | none => simp
  | some _ =>
    cases hconnected : self.m_comm_handler.is_connected with
    | true => simp
    | false =>
      cases henabled : self.m_comm_handler.m_enabled with
      | false =>
        have hrefused := connect_refused self.m_comm_handler self.m_timebase
          (by simp [henabled])
        simp [hrefused]
      | true =>
        simp only [Bool.false_eq_true, if_false, Option.isSome_some, Bool.and_self, Bool.not_false,
          if_true]
        split <;> rename_i hresult <;> rw [hresult]

/-- What a comm control request does to the comm handler. -/
theorem process_comm_control_comm (self : MainHandler) (request : Request) (response : Response)
    (hcommand : CommandId.cast request.command_id = some .CommControl) :
    if accepts_connect self.m_comm_handler request then
      (self.process_comm_control request response).2.m_comm_handler =
        (self.m_comm_handler.connect self.m_timebase).1
    else Beats self.m_comm_handler
      (self.process_comm_control request response).2.m_comm_handler := by
  cases hsubfunction : CommControl.Subfunction.cast request.subfunction_id with
  | none =>
    simpa [process_comm_control, accepts_connect, hsubfunction] using Beats.refl _
  | some subfunction =>
    cases subfunction with
    | Discover => simpa [process_comm_control, accepts_connect, hsubfunction] using Beats.refl _
    | Heartbeat =>
      simpa [process_comm_control, accepts_connect, hsubfunction] using
        comm_heartbeat_beats self request response
    | GetParams => simpa [process_comm_control, accepts_connect, hsubfunction] using Beats.refl _
    | Connect =>
      have hconnect := comm_connect_comm self request response
      simp only [process_comm_control, accepts_connect, hsubfunction, hcommand, decide_true,
        Bool.true_and]
      split
      · rename_i haccepts
        rw [hconnect, if_pos haccepts]
      · rename_i hrefused
        rw [hconnect, if_neg hrefused]
        exact Beats.refl _
    | Disconnect => simpa [process_comm_control, accepts_connect, hsubfunction] using Beats.refl _

/-- What the execution of a command leaves alone. -/
structure CommandFrame (before after : System) : Prop where
  loops : after.loops = before.loops
  main : after.main = { before.main with
    m_comm_handler := after.main.m_comm_handler
    m_disconnect_pending := after.main.m_disconnect_pending
    m_datalogging := after.main.m_datalogging }

theorem process_comm_control_main (self : MainHandler) (request : Request) (response : Response) :
    (self.process_comm_control request response).2 = { self with
      m_comm_handler := (self.process_comm_control request response).2.m_comm_handler
      m_disconnect_pending :=
        (self.process_comm_control request response).2.m_disconnect_pending } := by
  unfold process_comm_control
  split <;> rfl

theorem process_comm_control_datalogging (self : MainHandler) (request : Request)
    (response : Response) :
    (self.process_comm_control request response).2.m_datalogging = self.m_datalogging := by
  rw [process_comm_control_main]

theorem process_command_frame (s : System) (stack : Stack) (request : Request)
    (response : Response) : CommandFrame s (process_command s stack request response).2 := by
  unfold process_command
  split
  · exact ⟨rfl, rfl⟩
  · refine ⟨rfl, ?_⟩
    change (s.main.process_comm_control request response).2 = { s.main with
      m_comm_handler := (s.main.process_comm_control request response).2.m_comm_handler
      m_disconnect_pending := (s.main.process_comm_control request response).2.m_disconnect_pending
      m_datalogging := (s.main.process_comm_control request response).2.m_datalogging }
    rw [process_comm_control_datalogging]
    exact process_comm_control_main s.main request response
  · exact ⟨rfl, rfl⟩
  · exact ⟨rfl, rfl⟩
  · exact ⟨rfl, rfl⟩
  · exact ⟨rfl, rfl⟩

theorem process_command_comm (s : System) (stack : Stack) (request : Request)
    (response : Response) :
    if accepts_connect s.comm request then
      (process_command s stack request response).2.comm = (s.comm.connect s.main.m_timebase).1
    else Beats s.comm (process_command s stack request response).2.comm := by
  by_cases hcommand : CommandId.cast request.command_id = some .CommControl
  · have hcomm := process_comm_control_comm s.main request response hcommand
    simp only [process_command, hcommand]
    exact hcomm
  · have hrefused : accepts_connect s.comm request = false := by
      simp [accepts_connect, hcommand]
    simp only [hrefused, Bool.false_eq_true, if_false]
    unfold process_command
    split
    · exact Beats.refl _
    · rename_i hcast
      exact absurd hcast hcommand
    · exact Beats.refl _
    · exact Beats.refl _
    · exact Beats.refl _
    · exact Beats.refl _

theorem process_command_datalogging (s : System) (stack : Stack) (request : Request)
    (response : Response) :
    (process_command s stack request response).2.datalogging =
      if CommandId.cast request.command_id = some .DataLogControl then
        (s.main.process_datalog_control s.loops request response).2
      else s.datalogging := by
  unfold process_command
  split <;> rename_i hcast <;> rw [hcast]
  · rfl
  · exact process_comm_control_datalogging s.main request response
  · rfl
  · rfl
  · rfl
  · rfl

/-- The system that the command of the pending request is executed in. -/
def prepared (s : System) : System := s.set_comm s.comm.prepare_response

theorem execute_request_frame (s : System) (stack : Stack) :
    CommandFrame s (execute_request s stack) := by
  obtain ⟨hloops, hmain⟩ := process_command_frame (prepared s) stack s.comm.m_active_request
    { s.comm.prepare_response.m_active_response.reset with
      command_id := s.comm.m_active_request.command_id
      subfunction_id := s.comm.m_active_request.subfunction_id }
  refine ⟨hloops, ?_⟩
  simp only [execute_request, process_request, System.set_comm]
  exact congrArg (fun main : MainHandler =>
    { main with m_comm_handler := (execute_request s stack).main.m_comm_handler }) hmain

omit [Platform] in
theorem connect_active_response (comm : CommHandler) (timebase : Timebase) (response : Response) :
    ({ comm with m_active_response := response }.connect timebase).1 =
      { (comm.connect timebase).1 with m_active_response := response } := by
  unfold CommHandler.connect
  split <;> rfl

omit [Platform] in
theorem Beats.active_response {before after : CommHandler} (hbeats : Beats before after)
    (response : Response) :
    Beats { before with m_active_response := response }
      { after with m_active_response := response } := by
  obtain ⟨timestamp, challenge, received, rfl⟩ := hbeats
  exact ⟨timestamp, challenge, received, rfl⟩

theorem execute_request_comm (s : System) (stack : Stack) :
    ∃ response,
      if accepts_connect s.comm s.comm.m_active_request then
        (execute_request s stack).comm =
          { (s.comm.connect s.main.m_timebase).1 with m_active_response := response }
      else Beats { s.comm with m_active_response := response } (execute_request s stack).comm := by
  have hcomm := process_command_comm (prepared s) stack s.comm.m_active_request
    { s.comm.prepare_response.m_active_response.reset with
      command_id := s.comm.m_active_request.command_id
      subfunction_id := s.comm.m_active_request.subfunction_id }
  refine ⟨(execute_request s stack).comm.m_active_response, ?_⟩
  have haccepts : accepts_connect (prepared s).comm s.comm.m_active_request =
      accepts_connect s.comm s.comm.m_active_request := rfl
  rw [haccepts] at hcomm
  split at hcomm
  · rename_i haccepts
    rw [if_pos haccepts]
    have hexecuted := congrArg (fun comm : CommHandler =>
      { comm with m_active_response := (execute_request s stack).comm.m_active_response }) hcomm
    refine hexecuted.trans ?_
    simp only [prepared, System.set_comm, System.comm, CommHandler.prepare_response,
      connect_active_response]
  · rename_i hrefused
    rw [if_neg hrefused]
    exact hcomm.active_response (execute_request s stack).comm.m_active_response

theorem execute_request_datalogging (s : System) (stack : Stack) :
    ∃ response, (execute_request s stack).datalogging =
      if CommandId.cast s.comm.m_active_request.command_id = some .DataLogControl then
        (s.main.process_datalog_control s.loops s.comm.m_active_request response).2
      else s.datalogging :=
  ⟨_, process_command_datalogging (prepared s) stack s.comm.m_active_request _⟩

/-- The response to give to the comm handler once the request was executed, if any. -/
def final_response (s : System) : Option Response :=
  let response := s.comm.m_active_response
  match ResponseCode.cast response.response_code with
  | some .ProcessAgain =>
    if s.main.m_process_again_timestamp_taken &&
        s.main.m_timebase.has_expired s.main.m_process_again_timestamp
          (Platform.request_max_process_time_us * 10) then
      some { response with response_code := ResponseCode.FailureToProceed.code }
    else none
  | some .NoResponseToSend => none
  | _ => some response

theorem finish_request_some {s : System} {response : Response}
    (hfinal : final_response s = some response) :
    finish_request s =
      send_active_response (s.set_comm { s.comm with m_active_response := response }) := by
  unfold final_response at hfinal
  simp only at hfinal
  split at hfinal
  · rename_i hcast
    split at hfinal
    · rename_i hexpired
      obtain ⟨htaken, hexpired⟩ := Bool.and_eq_true_iff.mp hexpired
      simp only [Option.some.injEq] at hfinal
      subst hfinal
      rw [finish_request, hcast]
      simp only
      rw [if_neg (by rw [htaken]; decide), if_pos hexpired]
      rfl
    · cases hfinal
  · cases hfinal
  · rename_i hagain hsilent
    simp only [Option.some.injEq] at hfinal
    subst hfinal
    unfold finish_request
    split
    · rename_i hcast
      exact absurd hcast hagain
    · rename_i hcast
      exact absurd hcast hsilent
    · rfl

theorem finish_request_none {s : System} (hfinal : final_response s = none) :
    ∃ timestamp processing taken, finish_request s = { s with main := { s.main with
      m_process_again_timestamp := timestamp
      m_processing_request := processing
      m_process_again_timestamp_taken := taken } } := by
  unfold final_response at hfinal
  simp only at hfinal
  split at hfinal
  · rename_i hcast
    split at hfinal
    · cases hfinal
    · rename_i hwaiting
      rw [finish_request, hcast]
      simp only
      split
      · exact ⟨_, _, _, rfl⟩
      · rename_i htaken
        have hexpired : s.main.m_timebase.has_expired s.main.m_process_again_timestamp
            (Platform.request_max_process_time_us * 10) = false := by
          simpa [htaken] using hwaiting
        simp only [hexpired, Bool.false_eq_true, if_false]
        exact ⟨s.main.m_process_again_timestamp, _, s.main.m_process_again_timestamp_taken, rfl⟩
  · rename_i hcast
    rw [finish_request, hcast]
    exact ⟨s.main.m_process_again_timestamp, _, s.main.m_process_again_timestamp_taken, rfl⟩
  · cases hfinal

/-- What the exchange of messages with the loops leaves alone. -/
structure ExchangeFrame (before after : System) : Prop where
  main : after.main = { before.main with m_datalogging := after.main.m_datalogging }
  memory : after.memory = before.memory

theorem ExchangeFrame.refl (s : System) : ExchangeFrame s s := ⟨rfl, rfl⟩

theorem ExchangeFrame.trans {first second third : System} (h : ExchangeFrame first second)
    (h' : ExchangeFrame second third) : ExchangeFrame first third where
  main := by rw [h'.main, h.main]
  memory := h'.memory.trans h.memory

theorem process_loop_frame (s : System) (id : LoopId) : ExchangeFrame s (process_loop s id) := by
  unfold process_loop
  split
  · exact ⟨rfl, rfl⟩
  · exact ExchangeFrame.refl s

theorem process_loops_frame (s : System) : ExchangeFrame s (process_loops s) := by
  unfold process_loops
  generalize List.range s.loop_count = ids
  induction ids generalizing s with
  | nil => exact ExchangeFrame.refl s
  | cons id ids ih => exact (process_loop_frame s id).trans (ih (process_loop s id))

theorem offer_ownership_frame (s : System) : ExchangeFrame s (offer_ownership s) := by
  unfold offer_ownership
  simp only
  split
  · split <;> exact ⟨rfl, rfl⟩
  · exact ⟨rfl, rfl⟩

theorem send_commands_frame (s : System) (id : LoopId) : ExchangeFrame s (send_commands s id) := by
  unfold send_commands
  simp only
  repeat' split
  all_goals exact ⟨rfl, rfl⟩

theorem process_datalogging_logic_frame (s : System) :
    ExchangeFrame s (process_datalogging_logic s) := by
  unfold process_datalogging_logic
  split
  · exact ExchangeFrame.refl s
  · split
    · exact offer_ownership_frame s
    · exact send_commands_frame s _

/-- What `process` does with the loops, before and after the request. -/
theorem exchange_frame (s : System) :
    ExchangeFrame s (process_datalogging_logic (process_loops s)) :=
  (process_loops_frame s).trans (process_datalogging_logic_frame _)

theorem begin_process_main (s : System) (timestep_100ns : timediff_t) :
    (begin_process s timestep_100ns).main = { s.main with
      m_timebase := s.main.m_timebase.step timestep_100ns
      m_comm_handler := s.comm.process (s.main.m_timebase.step timestep_100ns)
      m_datalogging := (begin_process s timestep_100ns).main.m_datalogging } :=
  (exchange_frame _).main

theorem check_finished_sending_frame (self : MainHandler) :
    self.check_finished_sending.m_datalogging = self.m_datalogging ∧
      self.check_finished_sending.m_config = self.m_config := by
  unfold check_finished_sending
  simp only
  repeat' split
  all_goals exact ⟨rfl, rfl⟩

theorem end_process_main (s : System) :
    (end_process s).main = { check_finished_sending s.main with
      m_datalogging := (end_process s).main.m_datalogging } :=
  (exchange_frame _).main

theorem end_process_config (s : System) :
    (end_process s).main.m_config = s.main.m_config := by
  rw [end_process_main]
  exact (check_finished_sending_frame s.main).2

theorem end_process_loop_count (s : System) : (end_process s).loop_count = s.loop_count :=
  congrArg (fun m_config : Config => m_config.m_loop_count.toNat) (end_process_config s)

theorem ExchangeFrame.config {before after : System} (h : ExchangeFrame before after) :
    after.main.m_config = before.main.m_config :=
  (congrArg MainHandler.m_config h.main).trans rfl

theorem ExchangeFrame.loop_count {before after : System} (h : ExchangeFrame before after) :
    after.loop_count = before.loop_count := by
  rw [System.loop_count, h.config]
  rfl

/-- What `process` does with the request, if there is one. -/
def serve_request (s : System) (stack : Stack) : System :=
  if has_request s then finish_request (execute_request s stack) else s

theorem process_eq {s : System} (henabled : s.main.m_enabled = true)
    (timestep_100ns : timediff_t) (stack : Stack) :
    process s timestep_100ns stack =
      end_process (serve_request (begin_process s timestep_100ns) stack) := by
  rw [process, if_neg (by simp [henabled])]
  rfl

/-- The datalogging request that is handled, if there is one. -/
def served (s : System) : Option DataLogControl.Subfunction :=
  if has_request s ∧
      CommandId.cast s.comm.m_active_request.command_id = some .DataLogControl ∧
      s.main.m_config.is_datalogging_configured = true then
    DataLogControl.Subfunction.cast s.comm.m_active_request.subfunction_id
  else none

/-- The request that is configured with, when there is one. -/
def configuration_result (s : System) : ResponseCode × Datalogging :=
  s.main.configure_datalog s.loops s.comm.m_active_request

theorem finish_request_frame (s : System) :
    (finish_request s).loops = s.loops ∧ (finish_request s).memory = s.memory ∧
      (finish_request s).datalogging = s.datalogging ∧
      (finish_request s).main.m_config = s.main.m_config := by
  cases hfinal : final_response s with
  | none =>
    obtain ⟨timestamp, processing, taken, hfinish⟩ := finish_request_none hfinal
    rw [hfinish]
    exact ⟨rfl, rfl, rfl, rfl⟩
  | some response =>
    rw [finish_request_some hfinal]
    exact ⟨rfl, rfl, rfl, rfl⟩

theorem serve_request_loops (s : System) (stack : Stack) : (serve_request s stack).loops = s.loops := by
  unfold serve_request
  split
  · exact (finish_request_frame _).1.trans (execute_request_frame s stack).loops
  · rfl

theorem serve_request_config (s : System) (stack : Stack) :
    (serve_request s stack).main.m_config = s.main.m_config := by
  unfold serve_request
  split
  · refine (finish_request_frame _).2.2.2.trans ?_
    rw [(execute_request_frame s stack).main]
  · rfl

/-- What the handling of the request does to the member `m_datalogging`. -/
theorem serve_request_datalogging (s : System) (stack : Stack) :
    ∃ response, (serve_request s stack).datalogging =
      match served s with
      | some .ConfigureDatalog => (configuration_result s).2
      | some .ArmTrigger => (arm_trigger s.datalogging).2
      | some .DisarmTrigger => (disarm_trigger s.datalogging).2
      | some .ReadAcquisition => (read_acquisition s.datalogging response).2
      | some .ResetDatalogger => (reset_datalogger s.datalogging).2
      | _ => s.datalogging := by
  obtain ⟨response, hexecuted⟩ := execute_request_datalogging s stack
  refine ⟨response, ?_⟩
  unfold serve_request served
  by_cases hrequest : has_request s = true
  · simp only [hrequest, if_true, true_and]
    rw [(finish_request_frame _).2.2.1, hexecuted]
    by_cases hcommand : CommandId.cast s.comm.m_active_request.command_id = some .DataLogControl
    · simp only [hcommand, if_true, true_and]
      by_cases hconfigured : s.main.m_config.is_datalogging_configured = true
      · simp only [process_datalog_control, hconfigured, if_true, Bool.not_true,
          Bool.false_eq_true, if_false]
        cases hcast : DataLogControl.Subfunction.cast s.comm.m_active_request.subfunction_id with
        | none => rfl
        | some subfunction =>
          cases subfunction with
          | GetAcquisitionMetadata =>
            simp only
            split <;> rfl
          | _ => rfl
      · simp only [process_datalog_control, hconfigured, Bool.not_false, if_true,
          Bool.false_eq_true, if_false]
        rfl
    · simp only [hcommand, false_and, if_false]
  · simp only [hrequest, Bool.false_eq_true, false_and, if_false]

end MainHandler

theorem LoopHandler.process_common_main [Platform] (s : System) (id : LoopId)
    (timestep_100ns : timediff_t) :
    (process_common s id timestep_100ns).main = { s.main with
      m_datalogging := (process_common s id timestep_100ns).main.m_datalogging } := by
  unfold process_common run_datalogger
  simp only
  split <;> rfl

end scrutiny
