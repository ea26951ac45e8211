import Scrutiny.MainHandler.State

open foundation

namespace scrutiny.MainHandler

open protocol

variable [Platform]

def comm_discover (self : MainHandler) (request : Request) (response : Response) :
    ResponseCode × Response :=
  if CodecV1_0.decode_request_comm_discover request then
    CodecV1_0.encode_response_comm_discover {
      display_name_length :=
        BitVec.ofNat 8 (tools.strnlen self.m_config.display_name MAX_DISPLAY_NAME_LENGTH)
      display_name := self.m_config.display_name } response
  else (.InvalidRequest, response)

def comm_heartbeat (self : MainHandler) (request : Request) (response : Response) :
    (ResponseCode × Response) × CommHandler :=
  match CodecV1_0.decode_request_comm_heartbeat request with
  | none => ((.InvalidRequest, response), self.m_comm_handler)
  | some request_data =>
    if request_data.session_id ≠ self.m_comm_handler.get_session_id then
      ((.InvalidRequest, response), self.m_comm_handler)
    else
      match self.m_comm_handler.heartbeat self.m_timebase request_data.challenge with
      | (comm, false) => ((.InvalidRequest, response), comm)
      | (comm, true) =>
        (CodecV1_0.encode_response_comm_heartbeat {
          session_id := comm.get_session_id
          challenge_response := ~~~request_data.challenge } response, comm)

def comm_params (self : MainHandler) : ResponseData.CommControl.GetParams where
  data_tx_buffer_size := self.m_config.m_tx_buffer_size
  data_rx_buffer_size := self.m_config.m_rx_buffer_size
  max_bitrate := self.m_config.max_bitrate
  comm_rx_timeout := Platform.comm_rx_timeout_us
  heartbeat_timeout := Platform.comm_heartbeat_timeout_us
  address_size := BitVec.ofNat 8 Platform.addr_size
  char_bit := 8

def comm_connect (self : MainHandler) (request : Request) (response : Response) :
    (ResponseCode × Response) × CommHandler :=
  match CodecV1_0.decode_request_comm_connect request with
  | none => ((.InvalidRequest, response), self.m_comm_handler)
  | some _ =>
    if self.m_comm_handler.is_connected then ((.Busy, response), self.m_comm_handler)
    else
      match self.m_comm_handler.connect self.m_timebase with
      | (comm, false) => ((.FailureToProceed, response), comm)
      | (comm, true) =>
        (CodecV1_0.encode_response_comm_connect {
          magic := CommControl.CONNECT_MAGIC
          session_id := comm.get_session_id } response, comm)

/-- The flag tells that the session is to be closed. -/
def comm_disconnect (self : MainHandler) (request : Request) : ResponseCode × Bool :=
  match CodecV1_0.decode_request_comm_disconnect request with
  | none => (.InvalidRequest, self.m_disconnect_pending)
  | some session_id =>
    if self.m_comm_handler.is_connected then
      if self.m_comm_handler.get_session_id = session_id then (.OK, true)
      else (.InvalidRequest, self.m_disconnect_pending)
    else (.OK, self.m_disconnect_pending)

def process_comm_control (self : MainHandler) (request : Request) (response : Response) :
    (ResponseCode × Response) × MainHandler :=
  match CommControl.Subfunction.cast request.subfunction_id with
  | some .Discover => (self.comm_discover request response, self)
  | some .Heartbeat =>
    let (result, m_comm_handler) := self.comm_heartbeat request response
    (result, { self with m_comm_handler })
  | some .GetParams =>
    (CodecV1_0.encode_response_comm_get_params self.comm_params response, self)
  | some .Connect =>
    let (result, m_comm_handler) := self.comm_connect request response
    (result, { self with m_comm_handler })
  | some .Disconnect =>
    let (code, m_disconnect_pending) := self.comm_disconnect request
    ((code, response), { self with m_disconnect_pending })
  | none => ((.UnsupportedFeature, response), self)

end scrutiny.MainHandler
