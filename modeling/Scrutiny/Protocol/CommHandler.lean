import Scrutiny.Protocol.Definitions
import Scrutiny.Tools

open foundation

namespace scrutiny.protocol

inductive RxFSMState where
  | WaitForCommand
  | WaitForSubfunction
  | WaitForLength
  | WaitForData
  | WaitForCRC
  | WaitForProcess
  | Error
  deriving DecidableEq, Repr

inductive State where
  | Idle
  | Receiving
  | Transmitting
  deriving DecidableEq, Repr

/-- The raw content of the union of the counters of the reception states. -/
abbrev PerStateData := uint16_t

namespace PerStateData

def data_bytes_received (self : PerStateData) : uint16_t := self
def crc_bytes_received (self : PerStateData) : uint8_t := self.setWidth 8
def length_bytes_received (self : PerStateData) : uint8_t := self.setWidth 8

def set_uint8 (self : PerStateData) (value : uint8_t) : PerStateData :=
  (self &&& 0xFF00) ||| value.setWidth 16

end PerStateData

/-- The buffers are those of the active request and the active response, and the
timebase is given to each function that reads it. -/
structure CommHandler where
  m_heartbeat_timestamp : timestamp_t
  m_session_id : uint32_t
  m_last_heartbeat_challenge : uint16_t
  m_state : State
  m_enabled : Bool
  m_session_active : Bool
  m_first_heartbeat_received : Bool
  m_active_request : Request
  m_last_rx_timestamp : timestamp_t
  m_rx_buffer_size : uint16_t
  m_tx_buffer_size : uint16_t
  m_request_received : Bool
  m_rx_state : RxFSMState
  m_rx_error : RxError
  m_per_state_data : PerStateData
  m_active_response : Response
  m_crc : uint32_t
  m_nbytes_to_send : uint16_t
  m_nbytes_sent : uint16_t
  m_tx_error : TxError
  /-- A static member in the source. -/
  s_session_counter : uint32_t

namespace CommHandler

variable [Platform]

def request_received (self : CommHandler) : Bool := self.m_request_received
def transmitting (self : CommHandler) : Bool := self.m_state == State.Transmitting
def is_enabled (self : CommHandler) : Bool := self.m_enabled
def is_connected (self : CommHandler) : Bool := self.m_session_active
def get_session_id (self : CommHandler) : uint32_t := self.m_session_id
def tx_buffer_size (self : CommHandler) : uint16_t := self.m_tx_buffer_size

def reset_rx (self : CommHandler) (timebase : Timebase) : CommHandler :=
  { self with
    m_active_request := self.m_active_request.reset
    m_rx_state := .WaitForCommand
    m_request_received := false
    m_rx_error := .None
    m_last_rx_timestamp := timebase.get_timestamp
    m_crc := 0
    m_state := if self.m_state = .Receiving then .Idle else self.m_state }

def wait_next_request (self : CommHandler) (timebase : Timebase) : CommHandler :=
  self.reset_rx timebase

def reset_tx (self : CommHandler) : CommHandler :=
  { self with
    m_active_response := self.m_active_response.reset
    m_nbytes_to_send := 0
    m_nbytes_sent := 0
    m_tx_error := .None
    m_state := if self.m_state = .Transmitting then .Idle else self.m_state }

def reset (self : CommHandler) (timebase : Timebase) : CommHandler :=
  let self := { self with
    m_state := .Idle
    m_last_heartbeat_challenge := 0
    m_first_heartbeat_received := false
    m_session_id := 0
    m_session_active := false }
  if self.m_enabled then
    let self := { self with m_heartbeat_timestamp := timebase.get_timestamp }
    (self.reset_rx timebase).reset_tx
  else self

def disable (self : CommHandler) (timebase : Timebase) : CommHandler :=
  { self.reset timebase with m_enabled := false }

def init (self : CommHandler) (rx_buffer : ByteBuffer) (rx_buffer_size : uint16_t)
    (tx_buffer : ByteBuffer) (tx_buffer_size : uint16_t) (timebase : Timebase)
    (session_counter_seed : uint32_t) : CommHandler :=
  let rx_size_ok := ¬ (rx_buffer_size < MINIMUM_RX_BUFFER_SIZE ∨
    rx_buffer_size > MAXIMUM_RX_BUFFER_SIZE)
  let tx_size_ok := ¬ (tx_buffer_size < MINIMUM_TX_BUFFER_SIZE ∨
    tx_buffer_size > MAXIMUM_TX_BUFFER_SIZE)
  let self := { self with
    m_rx_buffer_size := rx_buffer_size
    m_tx_buffer_size := tx_buffer_size
    s_session_counter := session_counter_seed
    m_active_request := { self.m_active_request with
      data := rx_buffer, data_max_length := rx_buffer_size }
    m_active_response := { self.m_active_response with
      data := tx_buffer, data_max_length := tx_buffer_size }
    m_enabled := decide (rx_size_ok ∧ tx_size_ok)
    m_crc := 0 }
  self.reset timebase

def received_discover_request (self : CommHandler) : Bool :=
  if CommandId.cast self.m_active_request.command_id ≠ some .CommControl then false
  else if CommControl.Subfunction.cast self.m_active_request.subfunction_id ≠ some .Discover then
    false
  else if self.m_active_request.data_length.toNat < CommControl.DISCOVER_MAGIC.length then false
  else self.m_active_request.data.slice 0 CommControl.DISCOVER_MAGIC.length ==
    CommControl.DISCOVER_MAGIC

def received_connect_request (self : CommHandler) : Bool :=
  if CommandId.cast self.m_active_request.command_id ≠ some .CommControl then false
  else if CommControl.Subfunction.cast self.m_active_request.subfunction_id ≠ some .Connect then
    false
  else true

def process_active_request (self : CommHandler) (timebase : Timebase) : CommHandler :=
  let must_process := if self.m_session_active = false then
      self.received_discover_request || self.received_connect_request
    else true
  if must_process then
    { self with m_rx_state := .WaitForProcess, m_request_received := true }
  else self.reset_rx timebase

/-- One turn of the loop of `receive_data`, with the position reached in the data. -/
def receive_step (self : CommHandler) (timebase : Timebase) (data : ByteBuffer) (len i : Nat) :
    CommHandler × Nat :=
  match self.m_rx_state with
  | .WaitForCommand =>
    let self := { self with m_crc := 0 }
    if data i &&& 0x80 ≠ 0 then
      ({ self with m_rx_error := .InvalidCommand, m_rx_state := .Error }, i)
    else
      ({ self with
        m_active_request := { self.m_active_request with command_id := data i }
        m_crc := tools.crc32 (data.slice i 1) self.m_crc
        m_rx_state := .WaitForSubfunction }, i + 1)
  | .WaitForSubfunction =>
    ({ self with
      m_active_request := { self.m_active_request with subfunction_id := data i }
      m_crc := tools.crc32 (data.slice i 1) self.m_crc
      m_rx_state := .WaitForLength
      m_per_state_data := self.m_per_state_data.set_uint8 0 }, i + 1)
  | .WaitForLength =>
    let (self, i, next_state) :=
      if self.m_per_state_data.length_bytes_received = 0 then
        if len - i ≥ 2 then
          ({ self with
            m_active_request := { self.m_active_request with
              data_length := (data i).setWidth 16 <<< 8 ||| (data (i + 1)).setWidth 16 }
            m_crc := tools.crc32 (data.slice i 2) self.m_crc
            m_per_state_data := self.m_per_state_data.set_uint8 2 }, i + 2, true)
        else
          ({ self with
            m_active_request := { self.m_active_request with
              data_length := (data i).setWidth 16 <<< 8 }
            m_crc := tools.crc32 (data.slice i 1) self.m_crc
            m_per_state_data := self.m_per_state_data.set_uint8 1 }, i + 1, false)
      else
        ({ self with
          m_active_request := { self.m_active_request with
            data_length := self.m_active_request.data_length ||| (data i).setWidth 16 }
          m_crc := tools.crc32 (data.slice i 1) self.m_crc
          m_per_state_data := self.m_per_state_data.set_uint8 2 }, i + 1, true)
    if next_state then
      if self.m_active_request.data_length = 0 then
        ({ self with
          m_per_state_data := self.m_per_state_data.set_uint8 0
          m_rx_state := .WaitForCRC }, i)
      else
        ({ self with m_per_state_data := 0, m_rx_state := .WaitForData }, i)
    else (self, i)
  | .WaitForData =>
    if self.m_active_request.data_length > self.m_rx_buffer_size then
      ({ self with m_rx_error := .Overflow, m_rx_state := .Error }, i)
    else
      let available_bytes : uint16_t := BitVec.ofNat 16 (len - i)
      let received := self.m_per_state_data.data_bytes_received
      let missing_bytes := self.m_active_request.data_length - received
      let data_bytes_to_read :=
        if available_bytes ≥ missing_bytes then missing_bytes else available_bytes
      let bytes := data.slice i data_bytes_to_read.toNat
      let self := { self with
        m_active_request := { self.m_active_request with
          data := self.m_active_request.data.write received.toNat bytes }
        m_crc := tools.crc32 bytes self.m_crc
        m_per_state_data := received + data_bytes_to_read }
      if self.m_per_state_data.data_bytes_received ≥ self.m_active_request.data_length then
        ({ self with
          m_per_state_data := self.m_per_state_data.set_uint8 0
          m_rx_state := .WaitForCRC }, i + data_bytes_to_read.toNat)
      else (self, i + data_bytes_to_read.toNat)
  | .WaitForCRC =>
    let crc_bytes_received := self.m_per_state_data.crc_bytes_received + 1
    let self := { self with
      m_active_request := { self.m_active_request with
        crc := self.m_active_request.crc <<< 8 ||| (data i).setWidth 32 }
      m_per_state_data := self.m_per_state_data.set_uint8 crc_bytes_received }
    if crc_bytes_received ≥ 4 then
      let self := { self with m_state := .Idle }
      if self.m_crc = self.m_active_request.crc then (self.process_active_request timebase, i + 1)
      else (self.reset_rx timebase, i + 1)
    else (self, i + 1)
  | .WaitForProcess => (self, i)
  | .Error => (self, i)

/-- The condition of the loop of `receive_data`. -/
def keeps_receiving (self : CommHandler) (len i : Nat) : Bool :=
  decide (i < len) && !self.m_request_received && self.m_rx_state != .Error

def receive_loop (timebase : Timebase) (data : ByteBuffer) (len : Nat) :
    Nat → CommHandler → Nat → CommHandler
  | 0, self, _ => self
  | fuel + 1, self, i =>
    if self.keeps_receiving len i then
      let (self, i) := self.receive_step timebase data len i
      receive_loop timebase data len fuel self i
    else self

/-- What `receive_data` does before its loop when there is data. -/
def begin_reception (self : CommHandler) (timebase : Timebase) : CommHandler :=
  let self :=
    if timebase.has_expired self.m_last_rx_timestamp (Platform.comm_rx_timeout_us * 10) then
      { self.reset_rx timebase with m_state := .Idle }
    else self
  { self with
    m_last_rx_timestamp := timebase.get_timestamp
    m_state := if self.m_state = .Idle then .Receiving else self.m_state }

def receive_data (self : CommHandler) (timebase : Timebase) (data : ByteBuffer) (len : uint16_t) :
    CommHandler :=
  if self.m_enabled = false then { self with m_rx_error := .Disabled }
  else if self.m_state = .Transmitting then self
  else
    let self := if len ≠ 0 then self.begin_reception timebase else self
    receive_loop timebase data len.toNat (2 * len.toNat + 1) self 0

def prepare_response (self : CommHandler) : CommHandler :=
  { self with m_active_response := self.m_active_response.reset }

def add_crc (self : CommHandler) (response : Response) : Response :=
  if response.data_length > self.m_tx_buffer_size then response
  else
    let header := [response.command_id, response.subfunction_id, response.response_code,
      (response.data_length >>> 8).setWidth 8, response.data_length.setWidth 8]
    { response with crc := tools.crc32 response.payload (tools.crc32 header 0) }

/-- Success is the returned flag. -/
def send_response (self : CommHandler) (response : Response) : CommHandler × Bool :=
  let self := { self with m_tx_error := .None }
  if self.m_enabled = false then ({ self with m_tx_error := .Disabled }, false)
  else if self.m_state ≠ .Idle then ({ self with m_tx_error := .Busy }, false)
  else if response.data_length > self.m_tx_buffer_size then
    ({ self.reset_tx with m_tx_error := .Overflow }, false)
  else
    let active := { self.m_active_response with
      command_id := response.command_id ||| 0x80
      subfunction_id := response.subfunction_id
      response_code := response.response_code
      data_length := response.data_length
      data := response.data }
    let active := self.add_crc active
    ({ self with
      m_active_response := active
      m_nbytes_to_send := 1 + 1 + 1 + 2 + active.data_length + 4
      m_state := .Transmitting }, true)

/-- The byte of the header at a position below 5. -/
def header_byte (self : CommHandler) : uint8_t :=
  if self.m_nbytes_sent = 0 then self.m_active_response.command_id
  else if self.m_nbytes_sent = 1 then self.m_active_response.subfunction_id
  else if self.m_nbytes_sent = 2 then self.m_active_response.response_code
  else if self.m_nbytes_sent = 3 then (self.m_active_response.data_length >>> 8).setWidth 8
  else self.m_active_response.data_length.setWidth 8

/-- The bytes put in the user buffer so far are the last argument. -/
def pop_header (len : Nat) : Nat → CommHandler → List uint8_t → CommHandler × List uint8_t
  | 0, self, buffer => (self, buffer)
  | fuel + 1, self, buffer =>
    if self.m_nbytes_sent < 5 ∧ buffer.length < len then
      pop_header len fuel { self with m_nbytes_sent := self.m_nbytes_sent + 1 }
        (buffer ++ [self.header_byte])
    else (self, buffer)

def pop_crc (len : Nat) (crc_position : uint16_t) :
    Nat → CommHandler → List uint8_t → CommHandler × List uint8_t
  | 0, self, buffer => (self, buffer)
  | fuel + 1, self, buffer =>
    if buffer.length < len then
      let crc := self.m_active_response.crc
      let byte? : Option uint8_t :=
        if self.m_nbytes_sent = crc_position then some ((crc >>> 24).setWidth 8)
        else if self.m_nbytes_sent.toNat = crc_position.toNat + 1 then
          some ((crc >>> 16).setWidth 8)
        else if self.m_nbytes_sent.toNat = crc_position.toNat + 2 then some ((crc >>> 8).setWidth 8)
        else if self.m_nbytes_sent.toNat = crc_position.toNat + 3 then some (crc.setWidth 8)
        else none
      match byte? with
      | some byte =>
        pop_crc len crc_position fuel { self with m_nbytes_sent := self.m_nbytes_sent + 1 }
          (buffer ++ [byte])
      | none => (self, buffer)
    else (self, buffer)

def pop_payload (self : CommHandler) (len : Nat) (buffer : List uint8_t) :
    CommHandler × List uint8_t :=
  let data_byte_sent := self.m_nbytes_sent - 5
  if data_byte_sent < self.m_active_response.data_length then
    let remaining_data_bytes := self.m_active_response.data_length - (self.m_nbytes_sent - 5)
    let user_request_remaining : uint16_t := BitVec.ofNat 16 (len - buffer.length)
    let data_bytes_to_copy :=
      if user_request_remaining < remaining_data_bytes then user_request_remaining
      else remaining_data_bytes
    let first := self.m_active_response.data_length - remaining_data_bytes
    ({ self with m_nbytes_sent := self.m_nbytes_sent + data_bytes_to_copy },
      buffer ++ self.m_active_response.data.slice first.toNat data_bytes_to_copy.toNat)
  else (self, buffer)

/-- Returns the bytes put in the user buffer. -/
def pop_data (self : CommHandler) (timebase : Timebase) (len : uint16_t) :
    CommHandler × List uint8_t :=
  if self.m_state ≠ .Transmitting then (self, [])
  else
    let nbytes_to_send := self.m_nbytes_to_send - self.m_nbytes_sent
    let len := (if len > nbytes_to_send then nbytes_to_send else len).toNat
    let (self, buffer) := pop_header len 5 self []
    let (self, buffer) :=
      if self.m_nbytes_sent ≥ 5 ∧ buffer.length < len then
        let (self, buffer) := self.pop_payload len buffer
        let crc_position := self.m_active_response.data_length + 5
        pop_crc len crc_position 4 self buffer
      else (self, buffer)
    if self.m_nbytes_sent ≥ self.m_nbytes_to_send then
      (self.reset_tx.wait_next_request timebase, buffer)
    else (self, buffer)

def data_to_send (self : CommHandler) : uint16_t :=
  if self.m_state ≠ .Transmitting then 0 else self.m_nbytes_to_send - self.m_nbytes_sent

def process (self : CommHandler) (timebase : Timebase) : CommHandler :=
  if self.m_session_active then
    if timebase.has_expired self.m_heartbeat_timestamp
        (Platform.comm_heartbeat_timeout_us * 10) then
      self.reset timebase
    else self
  else self

def heartbeat (self : CommHandler) (timebase : Timebase) (challenge : uint16_t) :
    CommHandler × Bool :=
  if !self.m_session_active || !self.m_enabled then (self, false)
  else if challenge ≠ self.m_last_heartbeat_challenge ∨ self.m_first_heartbeat_received = false then
    ({ self with
      m_first_heartbeat_received := true
      m_heartbeat_timestamp := timebase.get_timestamp
      m_last_heartbeat_challenge := challenge }, true)
  else (self, false)

def connect (self : CommHandler) (timebase : Timebase) : CommHandler × Bool :=
  if !self.m_enabled || self.m_session_active then (self, false)
  else
    let self := { self with
      m_session_id := self.s_session_counter
      s_session_counter := self.s_session_counter + 1
      m_session_active := true
      m_first_heartbeat_received := false
      m_heartbeat_timestamp := timebase.get_timestamp }
    (self.reset_rx timebase, true)

def disconnect (self : CommHandler) (timebase : Timebase) : CommHandler :=
  let self := { self with
    m_session_id := 0, m_session_active := false, m_first_heartbeat_received := false }
  (self.reset_rx timebase).reset_tx

end CommHandler

end scrutiny.protocol
