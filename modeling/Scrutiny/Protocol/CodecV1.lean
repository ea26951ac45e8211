import Scrutiny.Protocol.Codec

open foundation

namespace scrutiny

inductive LoopType where
  | FIXED_FREQ
  | VARIABLE_FREQ
  deriving DecidableEq, Repr

def LoopType.code : LoopType → uint8_t
  | FIXED_FREQ => 0
  | VARIABLE_FREQ => 1

def LoopType.cast (byte : uint8_t) : Option LoopType :=
  if byte = 0 then some FIXED_FREQ
  else if byte = 1 then some VARIABLE_FREQ
  else none

namespace protocol

namespace ResponseData

namespace GetInfo

structure GetProtocolVersion where
  major : uint8_t
  minor : uint8_t

structure GetSupportedFeatures where
  memory_write : Bool
  datalogging : Bool
  user_command : Bool
  _64bits : Bool

structure GetSpecialMemoryRegionCount where
  nbr_readonly_region : uint8_t
  nbr_forbidden_region : uint8_t

structure GetSpecialMemoryRegionLocation where
  region_type : uint8_t
  region_index : uint8_t
  start : Nat
  end_addr : Nat

structure GetLoopDefinition where
  loop_id : uint8_t
  loop_type : uint8_t
  support_datalogging : Bool
  timestep_100ns : uint32_t
  loop_name_length : uint8_t
  loop_name : List uint8_t

end GetInfo

namespace CommControl

structure Discover where
  display_name_length : uint8_t
  display_name : List uint8_t

structure Heartbeat where
  session_id : uint32_t
  challenge_response : uint16_t

structure GetParams where
  data_rx_buffer_size : uint16_t
  data_tx_buffer_size : uint16_t
  max_bitrate : uint32_t
  heartbeat_timeout : uint32_t
  comm_rx_timeout : uint32_t
  address_size : uint8_t
  char_bit : uint8_t

structure Connect where
  magic : List uint8_t
  session_id : uint32_t

end CommControl

end ResponseData

namespace RequestData

structure GetSpecialMemoryRegionLocation where
  region_type : uint8_t
  region_index : uint8_t

structure GetRPVDefinition where
  start_index : uint16_t
  count : uint16_t

structure Heartbeat where
  session_id : uint32_t
  challenge : uint16_t

end RequestData

/-- `SCRUTINY_ACTUAL_PROTOCOL_VERSION`, as its major and minor numbers. -/
def PROTOCOL_VERSION : ResponseData.GetInfo.GetProtocolVersion where
  major := 1
  minor := 0

namespace CodecV1_0

/-- The encoders of fixed length: the payload is put in the response, or nothing
is when it does not fit. -/
def encode_response (payload : List uint8_t) (response : Response) : ResponseCode × Response :=
  if exceeds_tx_buffer payload.length response then (.Overflow, response)
  else (.OK, (response.put 0 payload).set_length payload.length)

def encode_response_protocol_version (response_data : ResponseData.GetInfo.GetProtocolVersion)
    (response : Response) : ResponseCode × Response :=
  encode_response [response_data.major, response_data.minor] response

def encode_response_special_memory_region_count
    (response_data : ResponseData.GetInfo.GetSpecialMemoryRegionCount) (response : Response) :
    ResponseCode × Response :=
  encode_response [response_data.nbr_readonly_region, response_data.nbr_forbidden_region] response

def supported_features_byte (response_data : ResponseData.GetInfo.GetSupportedFeatures) : uint8_t :=
  (if response_data.memory_write then 0x80 else 0) |||
    (if response_data.datalogging then 0x40 else 0) |||
    (if response_data.user_command then 0x20 else 0) |||
    (if response_data._64bits then 0x10 else 0)

def encode_response_supported_features
    (response_data : ResponseData.GetInfo.GetSupportedFeatures) (response : Response) :
    ResponseCode × Response :=
  encode_response [supported_features_byte response_data] response

def encode_response_get_rpv_count (count : uint16_t) (response : Response) :
    ResponseCode × Response :=
  encode_response (codecs.encode_16_bits_big_endian_8bits count) response

def encode_response_get_loop_count (count : uint8_t) (response : Response) :
    ResponseCode × Response :=
  encode_response (codecs.encode_8_bits_8bits count) response

def encode_response_comm_heartbeat (response_data : ResponseData.CommControl.Heartbeat)
    (response : Response) : ResponseCode × Response :=
  encode_response (codecs.encode_32_bits_big_endian_8bits response_data.session_id ++
    codecs.encode_16_bits_big_endian_8bits response_data.challenge_response) response

def encode_response_comm_get_params (response_data : ResponseData.CommControl.GetParams)
    (response : Response) : ResponseCode × Response :=
  encode_response (codecs.encode_16_bits_big_endian_8bits response_data.data_rx_buffer_size ++
    codecs.encode_16_bits_big_endian_8bits response_data.data_tx_buffer_size ++
    codecs.encode_32_bits_big_endian_8bits response_data.max_bitrate ++
    codecs.encode_32_bits_big_endian_8bits response_data.heartbeat_timeout ++
    codecs.encode_32_bits_big_endian_8bits response_data.comm_rx_timeout ++
    codecs.encode_8_bits_8bits response_data.address_size ++
    codecs.encode_8_bits_8bits response_data.char_bit) response

def encode_response_comm_connect (response_data : ResponseData.CommControl.Connect)
    (response : Response) : ResponseCode × Response :=
  encode_response (response_data.magic ++
    codecs.encode_32_bits_big_endian_8bits response_data.session_id) response

def decode_request_get_special_memory_region_location (request : Request) :
    Option RequestData.GetSpecialMemoryRegionLocation :=
  if request.data_length ≠ 2 then none
  else some { region_type := request.data 0, region_index := request.data 1 }

def decode_request_get_rpv_definition (request : Request) : Option RequestData.GetRPVDefinition :=
  if request.data_length ≠ 4 then none
  else some {
    start_index := codecs.decode_16_bits_big_endian_8bits request.data
    count := codecs.decode_16_bits_big_endian_8bits (request.data.shift 2) }

def decode_request_get_loop_definition (request : Request) : Option uint8_t :=
  if request.data_length ≠ 1 then none else some (request.data 0)

def decode_request_comm_discover (request : Request) : Bool :=
  if request.data_length ≠ 4 then false
  else request.data.slice 0 4 == CommControl.DISCOVER_MAGIC

def decode_request_comm_heartbeat (request : Request) : Option RequestData.Heartbeat :=
  if request.data_length ≠ 6 then none
  else some {
    session_id := codecs.decode_32_bits_big_endian_8bits request.data
    challenge := codecs.decode_16_bits_big_endian_8bits (request.data.shift 4) }

def decode_request_comm_connect (request : Request) : Option (List uint8_t) :=
  if request.data_length ≠ 4 then none else some (request.data.slice 0 4)

def decode_request_comm_disconnect (request : Request) : Option uint32_t :=
  if request.data_length ≠ 4 then none
  else some (codecs.decode_32_bits_big_endian_8bits request.data)

variable [Platform]

def encode_response_software_id (response : Response) : ResponseCode × Response :=
  encode_response Platform.software_id response

def encode_response_special_memory_region_location
    (response_data : ResponseData.GetInfo.GetSpecialMemoryRegionLocation) (response : Response) :
    ResponseCode × Response :=
  encode_response ([response_data.region_type, response_data.region_index] ++
    codecs.encode_address_big_endian_8bits response_data.start ++
    codecs.encode_address_big_endian_8bits response_data.end_addr) response

/-- What an encoder of variable length has put in the data stays there when it
finds that the rest does not fit. -/
def encode_response_get_loop_definition
    (response_data : ResponseData.GetInfo.GetLoopDefinition) (response : Response) :
    ResponseCode × Response :=
  if exceeds_tx_buffer 4 response then (.Overflow, response)
  else
    let attributes : uint8_t := if response_data.support_datalogging then 0x80 else 0
    let response := response.put 0 [response_data.loop_id, response_data.loop_type, attributes]
    let encode_name (response : Response) (cursor : Nat) : ResponseCode × Response :=
      let name_length := min response_data.loop_name_length.toNat MAX_LOOP_NAME_LENGTH
      if cursor + 1 + name_length > response.data_max_length.toNat then (.Overflow, response)
      else
        (.OK, (response.put cursor
          (BitVec.ofNat 8 name_length :: response_data.loop_name.take name_length)).set_length
            (cursor + 1 + name_length))
    match LoopType.cast response_data.loop_type with
    | some .FIXED_FREQ =>
      if 3 + 4 > response.data_max_length.toNat then (.Overflow, response)
      else
        encode_name
          (response.put 3 (codecs.encode_32_bits_big_endian_8bits response_data.timestep_100ns)) 7
    | some .VARIABLE_FREQ => encode_name response 3
    | none => (.FailureToProceed, response)

def encode_response_comm_discover (response_data : ResponseData.CommControl.Discover)
    (response : Response) : ResponseCode × Response :=
  let name_length := min response_data.display_name_length.toNat MAX_DISPLAY_NAME_LENGTH
  encode_response ([PROTOCOL_VERSION.major, PROTOCOL_VERSION.minor] ++ Platform.software_id ++
    [BitVec.ofNat 8 name_length] ++ response_data.display_name.take name_length) response

end CodecV1_0

end protocol

end scrutiny
