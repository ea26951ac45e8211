import Scrutiny.MainHandler.GetInfo
import Scrutiny.MainHandler.CommControl
import Scrutiny.MainHandler.MemoryControl
import Scrutiny.MainHandler.DatalogControl

open foundation

namespace scrutiny

open datalogging protocol

namespace MainHandler

variable [Platform]

def process_datalogging_loop_msg (self : Datalogging) (sender : LoopId) (msg : Loop2MainMessage) :
    Datalogging :=
  match msg with
  | .DATALOGGER_OWNERSHIP_TAKEN =>
    { self with
      error := if self.owner ≠ none then .UnexpectedClaim else self.error
      owner := some sender }
  | .DATALOGGER_OWNERSHIP_RELEASED =>
    { self with
      error := if some sender ≠ self.owner then .UnexpectedRelease else self.error
      owner := none
      datalogger := self.datalogger.reset
      pending_ownership_release := false }
  | .DATALOGGER_STATUS_UPDATE update =>
    { self with
      threadsafe_data := {
        datalogger_state := update.state
        bytes_to_acquire_from_trigger_to_completion :=
          update.bytes_to_acquire_from_trigger_to_completion
        write_counter_since_trigger := update.write_counter_since_trigger }
      reading_in_progress :=
        if update.state ≠ .AcquisitionCompleted then false else self.reading_in_progress }
  | .DATALOGGER_DATA_ACQUIRED => self

/-- One turn of the loop of `process_loops`. -/
def process_loop (s : System) (id : LoopId) : System :=
  match s.loop2main id with
  | some msg =>
    (s.set_loop id { s.loops id with m_loop2main_msg := none }).set_datalogging
      (process_datalogging_loop_msg s.datalogging id msg)
  | none => s

def process_loops (s : System) : System := (List.range s.loop_count).foldl process_loop s

/-- Without an owner: follow the state of the datalogger directly, and offer it to the
new owner when there is room for the message. -/
def offer_ownership (s : System) : System :=
  let d := { s.datalogging with
    threadsafe_data := { s.datalogging.threadsafe_data with
      datalogger_state := s.datalogger.get_state }
    request_arm_trigger := false
    request_disarm_trigger := false }
  match d.new_owner with
  | some id =>
    if (s.main2loop id).isNone then
      (s.send id .TAKE_DATALOGGER_OWNERSHIP).set_datalogging { d with new_owner := none }
    else s.set_datalogging d
  | none => s.set_datalogging d

/-- With an owner that has room for a message: send it one request, release first. -/
def send_commands (s : System) (id : LoopId) : System :=
  let d := s.datalogging
  if (s.main2loop id).isSome then s
  else if d.request_ownership_release then
    (s.send id .RELEASE_DATALOGGER_OWNERSHIP).set_datalogging { d with
      request_ownership_release := false
      pending_ownership_release := true }
  else if d.request_arm_trigger then
    (s.send id .DATALOGGER_ARM_TRIGGER).set_datalogging { d with request_arm_trigger := false }
  else if d.request_disarm_trigger then
    (s.send id .DATALOGGER_DISARM_TRIGGER).set_datalogging { d with
      request_disarm_trigger := false }
  else s

def process_datalogging_logic (s : System) : System :=
  if s.datalogging.error ≠ .NoError then s
  else
    match s.datalogging.owner with
    | none => offer_ownership s
    | some id => send_commands s id

/-- The switch of `process_request` over the command. -/
def process_command (s : System) (stack : Stack) (request : Request) (response : Response) :
    (ResponseCode × Response) × System :=
  match CommandId.cast request.command_id with
  | some .GetInfo => (process_get_info s stack request response, s)
  | some .CommControl =>
    let (result, main) := s.main.process_comm_control request response
    (result, { s with main })
  | some .MemoryControl =>
    let (result, memory) := s.main.process_memory_control stack request response s.memory
    (result, { s with memory })
  | some .DataLogControl =>
    let (result, m_datalogging) := s.main.process_datalog_control s.loops request response
    (result, s.set_datalogging m_datalogging)
  | some .UserCommand =>
    let (result, memory) := s.main.process_user_command request response s.memory
    (result, { s with memory })
  | none => ((.UnsupportedFeature, response), s)

def process_request (s : System) (stack : Stack) (request : Request) (response : Response) :
    Response × System :=
  let response := { response.reset with
    command_id := request.command_id
    subfunction_id := request.subfunction_id }
  let ((code, response), s) := process_command s stack request response
  ({ response with
    response_code := code.code
    data_length := if code ≠ .OK then 0 else response.data_length }, s)

/-- `process_request` on the request received, into the response object of the comm
handler. -/
def execute_request (s : System) (stack : Stack) : System :=
  let comm := s.comm.prepare_response
  let (response, s) :=
    process_request (s.set_comm comm) stack comm.m_active_request comm.m_active_response
  s.set_comm { s.comm with m_active_response := response }

/-- Gives the response to the comm handler. Whether it takes it is not looked at. -/
def send_active_response (s : System) : System :=
  { s with main := { s.main with
    m_comm_handler := (s.comm.send_response s.comm.m_active_response).1
    m_processing_request := true } }

/-- The answer to a request that was to be processed again for too long. -/
def give_up (s : System) : System :=
  send_active_response (s.set_comm { s.comm with
    m_active_response := { s.comm.m_active_response with
      response_code := ResponseCode.FailureToProceed.code } })

/-- Acts on the response code of the request that was executed. -/
def finish_request (s : System) : System :=
  match ResponseCode.cast s.comm.m_active_response.response_code with
  | some .ProcessAgain =>
    let s := { s with main := { s.main with m_processing_request := false } }
    if s.main.m_process_again_timestamp_taken = false then
      { s with main := { s.main with
        m_process_again_timestamp := s.main.m_timebase.get_timestamp
        m_process_again_timestamp_taken := true } }
    else if s.main.m_timebase.has_expired s.main.m_process_again_timestamp
        (Platform.request_max_process_time_us * 10) then
      give_up s
    else s
  | some .NoResponseToSend => { s with main := { s.main with m_processing_request := true } }
  | _ => send_active_response s

def check_finished_sending (self : MainHandler) : MainHandler :=
  if self.m_processing_request then
    if !self.m_comm_handler.transmitting then
      let self := { self with
        m_comm_handler := self.m_comm_handler.wait_next_request self.m_timebase
        m_processing_request := false
        m_process_again_timestamp_taken := false }
      if self.m_disconnect_pending then
        { self with
          m_comm_handler := self.m_comm_handler.disconnect self.m_timebase
          m_disconnect_pending := false }
      else self
    else self
  else self

/-- What `process` does before it looks at the request received. -/
def begin_process (s : System) (timestep_100ns : timediff_t) : System :=
  let m_timebase := s.main.m_timebase.step timestep_100ns
  let s := { s with main := { s.main with
    m_timebase
    m_comm_handler := s.main.m_comm_handler.process m_timebase } }
  process_datalogging_logic (process_loops s)

/-- Whether a request is to be executed. -/
def has_request (s : System) : Bool :=
  s.comm.request_received && !s.main.m_processing_request

/-- What `process` does after the request, if there was one. Some commands affect the
loops and the datalogging. -/
def end_process (s : System) : System :=
  let s := { s with main := check_finished_sending s.main }
  process_datalogging_logic (process_loops s)

def process_disabled (self : MainHandler) : MainHandler :=
  { self with
    m_processing_request := false
    m_disconnect_pending := false
    m_comm_handler := self.m_comm_handler.reset self.m_timebase
    m_datalogging := { self.m_datalogging with
      datalogger := self.m_datalogging.datalogger.reset } }

def process (s : System) (timestep_100ns : timediff_t) (stack : Stack) : System :=
  if s.main.m_enabled = false then { s with main := process_disabled s.main }
  else
    let s := begin_process s timestep_100ns
    let s := if has_request s then finish_request (execute_request s stack) else s
    end_process s

def receive_data (s : System) (data : ByteBuffer) (len : uint16_t) : System :=
  s.set_comm (s.comm.receive_data s.main.m_timebase data len)

def pop_data (s : System) (len : uint16_t) : System × List uint8_t :=
  let (comm, buffer) := s.comm.pop_data s.main.m_timebase len
  let s := s.set_comm comm
  ({ s with main := check_finished_sending s.main }, buffer)

/-- The checks of the configuration, apart from those of the comm handler. -/
def check_config (m_config : Config) : Bool :=
  m_config.m_rx_buffer.isSome && m_config.m_tx_buffer.isSome &&
    decide (MINIMUM_RX_BUFFER_SIZE ≤ m_config.m_rx_buffer_size) &&
    decide (m_config.m_rx_buffer_size ≤ MAXIMUM_RX_BUFFER_SIZE) &&
    decide (MINIMUM_TX_BUFFER_SIZE ≤ m_config.m_tx_buffer_size) &&
    decide (m_config.m_tx_buffer_size ≤ MAXIMUM_TX_BUFFER_SIZE) &&
    m_config.get_rpvs_array.all fun rpv => tools.is_supported_type rpv.type

/-- What `init` makes of the member `m_datalogging`. -/
def init_datalogging (self : Datalogging) (m_config : Config) : Datalogging :=
  let datalogger := (self.datalogger.init m_config m_config.m_datalogger_buffer
    m_config.m_datalogger_buffer_size m_config.m_datalogger_trigger_callback).1
  { self with
    datalogger
    owner := none
    new_owner := none
    error := .NoError
    request_arm_trigger := false
    request_ownership_release := false
    pending_ownership_release := false
    request_disarm_trigger := false
    reading_in_progress := false
    read_acquisition_rolling_counter := 0
    threadsafe_data := {
      datalogger_state := datalogger.get_state
      bytes_to_acquire_from_trigger_to_completion := 0
      write_counter_since_trigger := 0 } }

/-- Only the loops of the configuration are initialized. -/
def init_loops (loop_count : Nat) (loops : LoopId → LoopHandler) : LoopId → LoopHandler :=
  fun id => if id < loop_count then (loops id).init else loops id

def init (s : System) (m_config : Config) : Status × System :=
  let m_comm_handler := s.comm.init (m_config.m_rx_buffer.getD fun _ => 0)
    m_config.m_rx_buffer_size (m_config.m_tx_buffer.getD fun _ => 0) m_config.m_tx_buffer_size
    s.main.m_timebase m_config.session_counter_seed
  let main := { s.main with
    m_processing_request := false
    m_disconnect_pending := false
    m_process_again_timestamp_taken := false
    m_config
    m_comm_handler
    m_enabled := check_config m_config }
  if main.m_enabled = false then
    (.ERROR, { s with main := { main with
      m_comm_handler := m_comm_handler.disable s.main.m_timebase } })
  else if m_comm_handler.is_enabled = false then
    (.ERROR, { s with main := { main with m_enabled := false } })
  else
    (.SUCCESS, {
      main := { main with m_datalogging := init_datalogging main.m_datalogging m_config }
      loops := init_loops m_config.m_loop_count.toNat s.loops
      memory := s.memory })

end MainHandler

namespace LoopHandler

variable [Platform]

/-- The timebases of all the loops. -/
def timebases (s : System) : LoopId → Timebase := fun id => (s.loops id).m_timebase

/-- The loop runs the datalogger when it owns it, and reports on it. -/
def run_datalogger (s : System) (id : LoopId) : System :=
  if owns_datalogger id s.datalogger then
    let (datalogger, memory) := s.datalogger.process s.main.m_config (timebases s) s.memory
    let s := { s.set_datalogging { s.datalogging with datalogger } with memory }
    s.set_loop id ((s.loops id).send_report datalogger)
  else s

def process_common (s : System) (id : LoopId) (timestep_100ns : timediff_t) : System :=
  let loop := { s.loops id with m_timebase := (s.loops id).m_timebase.step timestep_100ns }
  let (loop, datalogger) := loop.receive_message id s.datalogger
  run_datalogger
    ((s.set_loop id loop).set_datalogging { s.datalogging with datalogger }) id

end LoopHandler

end scrutiny
