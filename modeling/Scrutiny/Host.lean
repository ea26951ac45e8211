import Scrutiny.System

/-! A target and the frames sent to it, for the runs on concrete inputs. -/

open foundation

namespace scrutiny.host

open datalogging protocol

/-- No run on this target makes a computation on floats. -/
def float_unit : FloatUnit where
  eq := fun a b => a == b
  lt := fun _ _ => false
  le := fun a b => a == b
  add := fun a _ => a
  sub := fun a _ => a
  neg := fun a => a
  of_uint := fun _ => 0
  of_sint := fun _ => 0
  to_sint := fun _ => 0
  of_double := fun _ => 0

/-- A 64-bit target with the default build configuration. -/
@[reducible] def platform : Platform where
  addr_size := 8
  addr_size_supported := by decide
  sizeof_bool := 1
  float_unit := float_unit
  buffer_size_bits := 32
  buffer_size_supported := by decide
  datalogging_max_signal := 16
  datalogging_max_signal_supported := by decide
  request_max_process_time_us := 100000
  comm_rx_timeout_us := 50000
  comm_heartbeat_timeout_us := 5000000
  software_id := List.replicate 16 0
  software_id_length := by decide

attribute [local instance] platform

def buffer_of (bytes : List uint8_t) : ByteBuffer := fun i => bytes.getD i 0

/-- A request as it is sent on the wire. -/
def frame (command_id subfunction_id : uint8_t) (payload : List uint8_t) : List uint8_t :=
  let body := [command_id, subfunction_id] ++
    codecs.encode_16_bits_big_endian_8bits (BitVec.ofNat 16 payload.length) ++ payload
  body ++ codecs.encode_32_bits_big_endian_8bits (tools.crc32 body 0)

def receive (bytes : List uint8_t) : Event :=
  .receive_data (buffer_of bytes) (BitVec.ofNat 16 bytes.length)

def stack : Stack where
  loop_id := 0
  v := 0

/-- Reception, execution and answer of one request, in no time. -/
def exchange (command_id subfunction_id : uint8_t) (payload : List uint8_t) : List Event :=
  [receive (frame command_id subfunction_id payload), .process 0 stack, .pop_data 0xFFFF]

def connect : List Event := exchange 2 4 CommControl.CONNECT_MAGIC

/-- The acquisition of one byte of memory by a loop, with a trigger that fires at once. -/
def configuration (loop_id probe_location : uint8_t) : List uint8_t :=
  [loop_id, 0, 1, 0, 1, probe_location] ++ List.replicate 4 0 ++ [0] ++ List.replicate 4 0 ++ [0] ++
    [1, 0] ++ codecs.encode_address_big_endian_8bits 0x1000 ++ [1]

/-- A request for a loop to acquire data with the given probe location. -/
def configure (loop_id probe_location : uint8_t) : List Event :=
  exchange 5 2 (configuration loop_id probe_location)

def config (tx_buffer_size : uint16_t) (forbidden : List AddressRange)
    (h : forbidden.length < 2 ^ 8) : Config where
  max_bitrate := 0
  session_counter_seed := 0
  display_name := []
  memory_write_enable := true
  m_rx_buffer := some fun _ => 0
  m_tx_buffer := some fun _ => 0
  m_forbidden_address_ranges := some ⟨forbidden, h⟩
  m_readonly_address_ranges := none
  m_rpvs := none
  m_rpv_read_callback := none
  m_rpv_write_callback := none
  m_user_command_callback := none
  m_loops_set := true
  m_rx_buffer_size := 128
  m_tx_buffer_size := tx_buffer_size
  m_loop_count := 2
  m_datalogger_buffer := some fun _ => 0
  m_datalogger_buffer_size := 4
  m_datalogger_buffer_size_lt := by decide
  m_datalogger_trigger_callback := none

def operand : Operand where
  type := 0
  val := 0
  addr := 0
  datatype := 0
  bitoffset := 0
  bitsize := 0
  id := 0

def datalogger : DataLogger where
  m_config := {
    items_to_log := fun _ => ⟨0, 0, 0, 0⟩
    trigger := ⟨fun _ => operand, 0, 0, 0⟩
    timeout_100ns := 0
    decimation := 0
    items_count := 0
    probe_location := 0 }
  m_encoder := {
    m_buffer := none
    m_buffer_size := 0
    m_reader := ⟨0, false, false⟩
    m_timebase := none
    m_max_entries := 0
    m_next_entry_write_index := 0
    m_first_valid_entry_index := 0
    m_entry_write_counter := 0
    m_entry_size := 0
    m_full := false
    m_error := false }
  m_buffer_size := 0
  m_trigger_callback := none
  m_owner := none
  m_timebase := none
  m_trigger_timestamp := 0
  m_trigger_cursor_location := 0
  m_remaining_data_to_write := 0
  m_log_points_after_trigger := 0
  m_decimation_counter := 0
  m_acquisition_id := 0
  m_config_id := 0
  m_manual_trigger := false
  m_config_valid := false
  m_state := .Idle
  m_trigger := ⟨trigger.AlwaysTrueCondition, ⟨0, false⟩, 0, false⟩
  ops_data := fun _ => ⟨0, 0⟩

def comm_handler : CommHandler where
  m_heartbeat_timestamp := 0
  m_session_id := 0
  m_last_heartbeat_challenge := 0
  m_state := .Idle
  m_enabled := false
  m_session_active := false
  m_first_heartbeat_received := false
  m_active_request := ⟨0, 0, 0, 0, fun _ => 0, 0⟩
  m_last_rx_timestamp := 0
  m_rx_buffer_size := 0
  m_tx_buffer_size := 0
  m_request_received := false
  m_rx_state := .WaitForCommand
  m_rx_error := .None
  m_per_state_data := 0
  m_active_response := ⟨0, 0, 0, 0, 0, fun _ => 0, 0⟩
  m_crc := 0
  m_nbytes_to_send := 0
  m_nbytes_sent := 0
  m_tx_error := .None
  s_session_counter := 0

theorem none_forbidden : ([] : List AddressRange).length < 2 ^ 8 := by decide

/-- Zeroed memory, before the initialization. -/
def zeroed : System where
  main := {
    m_config := config 256 [] none_forbidden
    m_comm_handler := comm_handler
    m_timebase := ⟨0⟩
    m_process_again_timestamp := 0
    m_processing_request := false
    m_disconnect_pending := false
    m_enabled := false
    m_process_again_timestamp_taken := false
    m_datalogging := {
      datalogger := datalogger
      threadsafe_data := ⟨0, 0, .Idle⟩
      owner := none
      new_owner := none
      read_acquisition_crc := 0
      read_acquisition_rolling_counter := 0
      error := .NoError
      request_arm_trigger := false
      request_ownership_release := false
      request_disarm_trigger := false
      pending_ownership_release := false
      reading_in_progress := false } }
  loops := fun _ => {
    m_timebase := ⟨0⟩
    m_main2loop_msg := none
    m_loop2main_msg := none
    m_name := []
    m_datalogger_data_acquired := false
    m_support_datalogging := true
    loop_type := .VARIABLE_FREQ
    m_timestep_100ns := 0 }
  memory := ⟨fun _ => 0, []⟩

/-- The target after its initialization. -/
def initialized (tx_buffer_size : uint16_t) (forbidden : List AddressRange)
    (h : forbidden.length < 2 ^ 8) : System :=
  (MainHandler.init zeroed (config tx_buffer_size forbidden h)).2

def start : System := initialized 256 [] none_forbidden

theorem initial_start : System.Initial start :=
  ⟨zeroed, config 256 [] none_forbidden, Prod.ext (by decide +kernel) rfl⟩

theorem reachable_run (events : List Event) : System.Reachable (run System.step start events) :=
  ⟨start, events, initial_start, rfl⟩

/-- A request of the memory commands, with the response it is answered in. -/
def memory_request (subfunction_id : uint8_t) (payload : List uint8_t) : Request where
  command_id := 3
  subfunction_id := subfunction_id
  data_length := BitVec.ofNat 16 payload.length
  data_max_length := 128
  data := buffer_of payload
  crc := 0

def response : Response := comm_handler.m_active_response

/-- A block as it is written in a memory request, before its data. -/
def block_header (start_address : Nat) (length : uint16_t) : List uint8_t :=
  codecs.encode_address_big_endian_8bits start_address ++
    codecs.encode_16_bits_big_endian_8bits length

end scrutiny.host
