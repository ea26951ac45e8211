import Scrutiny.Protocol.CodecV1
import Scrutiny.Datalogging.RawEncoder
import Scrutiny.Datalogging.Types

open foundation

namespace scrutiny.protocol

open datalogging

namespace ResponseData.DataLogControl

structure GetSetup where
  buffer_size : uint32_t
  data_encoding : uint8_t
  max_signal_count : uint8_t

structure GetStatus where
  state : uint8_t
  bytes_to_acquire_from_trigger_to_completion : uint32_t
  write_counter_since_trigger : uint32_t

structure GetAcquisitionMetadata where
  acquisition_id : uint16_t
  config_id : uint16_t
  number_of_points : uint32_t
  data_size : uint32_t
  points_after_trigger : uint32_t

structure ReadAcquisition where
  acquisition_id : uint16_t
  rolling_counter : uint8_t

end ResponseData.DataLogControl

structure RequestData.DataLogControl.Configure where
  loop_id : uint8_t
  config_id : uint16_t

namespace CodecV1_0

def encode_response_datalogging_get_setup (response_data : ResponseData.DataLogControl.GetSetup)
    (response : Response) : ResponseCode × Response :=
  encode_response (codecs.encode_32_bits_big_endian_8bits response_data.buffer_size ++
    codecs.encode_8_bits_8bits response_data.data_encoding ++
    codecs.encode_8_bits_8bits response_data.max_signal_count) response

def encode_response_datalogging_status (response_data : ResponseData.DataLogControl.GetStatus)
    (response : Response) : ResponseCode × Response :=
  encode_response (codecs.encode_8_bits_8bits response_data.state ++
    codecs.encode_32_bits_big_endian_8bits
      response_data.bytes_to_acquire_from_trigger_to_completion ++
    codecs.encode_32_bits_big_endian_8bits response_data.write_counter_since_trigger) response

def encode_response_datalogging_get_acquisition_metadata
    (response_data : ResponseData.DataLogControl.GetAcquisitionMetadata) (response : Response) :
    ResponseCode × Response :=
  encode_response (codecs.encode_16_bits_big_endian_8bits response_data.acquisition_id ++
    codecs.encode_16_bits_big_endian_8bits response_data.config_id ++
    codecs.encode_32_bits_big_endian_8bits response_data.number_of_points ++
    codecs.encode_32_bits_big_endian_8bits response_data.data_size ++
    codecs.encode_32_bits_big_endian_8bits response_data.points_after_trigger) response

variable [Platform]

/-- What the encoding of a read acquisition leaves: the reader, which is part of the
encoder, the running CRC and whether the acquisition is finished. -/
structure ReadAcquisitionResult where
  code : ResponseCode
  response : Response
  encoder : RawFormatEncoder
  crc : uint32_t
  finished : Bool

def encode_response_datalogging_read_acquisition
    (response_data : ResponseData.DataLogControl.ReadAcquisition) (encoder : RawFormatEncoder)
    (crc : uint32_t) (response : Response) : ReadAcquisitionResult :=
  if exceeds_tx_buffer 16 response then ⟨.Overflow, response, encoder, crc, false⟩
  else
    let response := response.put 1
      (codecs.encode_8_bits_8bits response_data.rolling_counter ++
        codecs.encode_16_bits_big_endian_8bits response_data.acquisition_id)
    let (encoder, bytes) := RawFormatReader.read_dilate_8bits encoder
      (buffer_size (response.data_max_length.toNat - 4))
    let response := (response.put 4 bytes).set_length (bytes.length + 4)
    let crc := tools.crc32 bytes crc
    let finished := encoder.m_reader.m_finished &&
      decide (response.data_length.toNat + 4 ≤ response.data_max_length.toNat)
    let response := if finished then
        (response.put response.data_length.toNat
          (codecs.encode_32_bits_big_endian_8bits crc)).set_length (response.data_length.toNat + 4)
      else response
    let response := response.put 0 (codecs.encode_8_bits_8bits (if finished then 1 else 0))
    ⟨.OK, response, encoder, crc, finished⟩

/-- An operand is read after its type. The cursor is that of the next operand, and
`none` stands for an invalid request, which leaves the operand partly written. -/
def decode_operand (request : Request) (cursor : Nat) (operand : Operand) :
    Operand × Option Nat :=
  let data := request.data.shift
  if operand.type = OperandType.Literal then
    if request.data_length.toNat < cursor + 4 then (operand, none)
    else ({ operand with val := codecs.decode_float_big_endian_8bits (data cursor) },
      some (cursor + 4))
  else if operand.type = OperandType.Rpv then
    if request.data_length.toNat < cursor + 2 then (operand, none)
    else ({ operand with id := codecs.decode_16_bits_big_endian_8bits (data cursor) },
      some (cursor + 2))
  else if operand.type = OperandType.Var then
    if request.data_length.toNat < cursor + 1 + Platform.addr_size then (operand, none)
    else ({ operand with
        datatype := request.data cursor
        addr := codecs.decode_address_big_endian_8bits (data (cursor + 1)) },
      some (cursor + 1 + Platform.addr_size))
  else if operand.type = OperandType.VarBit then
    if request.data_length.toNat < cursor + 3 + Platform.addr_size then (operand, none)
    else ({ operand with
        datatype := request.data cursor
        addr := codecs.decode_address_big_endian_8bits (data (cursor + 1))
        bitoffset := request.data (cursor + 1 + Platform.addr_size)
        bitsize := request.data (cursor + 2 + Platform.addr_size) },
      some (cursor + 3 + Platform.addr_size))
  else (operand, none)

/-- The loop over the operands from index `i` on. -/
def decode_operands (request : Request) :
    Nat → Nat → Nat → Configuration → Configuration × Option Nat
  | 0, _, cursor, config => (config, some cursor)
  | n + 1, i, cursor, config =>
    if request.data_length.toNat < cursor + 1 then (config, none)
    else
      let operand := { config.trigger.operands i with type := request.data cursor }
      let (operand, next) := decode_operand request (cursor + 1) operand
      let config := { config with
        trigger := { config.trigger with
          operands := Function.update config.trigger.operands i operand } }
      match next with
      | some cursor => decode_operands request n (i + 1) cursor config
      | none => (config, none)

def decode_item (request : Request) (cursor : Nat) (item : LoggableItem) :
    LoggableItem × Option Nat :=
  let data := request.data.shift
  if item.type = LoggableType.Memory then
    if request.data_length.toNat < cursor + Platform.addr_size + 1 then (item, none)
    else ({ item with
        address := codecs.decode_address_big_endian_8bits (data cursor)
        size := request.data (cursor + Platform.addr_size) },
      some (cursor + Platform.addr_size + 1))
  else if item.type = LoggableType.Rpv then
    if request.data_length.toNat < cursor + 2 then (item, none)
    else ({ item with id := codecs.decode_16_bits_big_endian_8bits (data cursor) },
      some (cursor + 2))
  else if item.type = LoggableType.Time then (item, some cursor)
  else (item, none)

/-- The loop over the items from index `i` on. -/
def decode_items (request : Request) :
    Nat → Nat → Nat → Configuration → Configuration × Option Nat
  | 0, _, cursor, config => (config, some cursor)
  | n + 1, i, cursor, config =>
    if request.data_length.toNat < cursor + 1 then (config, none)
    else
      let item := { config.items_to_log i with type := request.data cursor }
      let (item, next) := decode_item request (cursor + 1) item
      let config := { config with items_to_log := Function.update config.items_to_log i item }
      match next with
      | some cursor => decode_items request n (i + 1) cursor config
      | none => (config, none)

/-- The fields of fixed position. -/
def decode_configure_header (request : Request) (config : Configuration) : Configuration :=
  let data := request.data.shift
  { config with
    decimation := codecs.decode_16_bits_big_endian_8bits (data 3)
    probe_location := request.data 5
    timeout_100ns := codecs.decode_32_bits_big_endian_8bits (data 6)
    trigger := { config.trigger with
      condition := request.data 10
      hold_time_100ns := codecs.decode_32_bits_big_endian_8bits (data 11)
      operand_count := request.data 15 } }

/-- Decodes into the given configuration, which is partly written when the code is
not OK. -/
def decode_datalogging_configure_request (request : Request) (config : Configuration) :
    ResponseCode × RequestData.DataLogControl.Configure × Configuration :=
  let request_data := {
    loop_id := request.data 0
    config_id := codecs.decode_16_bits_big_endian_8bits (request.data.shift 1) }
  if request.data_length < 16 then (.InvalidRequest, request_data, config)
  else
    let config := decode_configure_header request config
    if config.trigger.operand_count.toNat > MAX_OPERANDS then (.Overflow, request_data, config)
    else
      match decode_operands request config.trigger.operand_count.toNat 0 16 config with
      | (config, none) => (.InvalidRequest, request_data, config)
      | (config, some cursor) =>
        if request.data_length.toNat < cursor + 1 then (.InvalidRequest, request_data, config)
        else
          let config := { config with items_count := request.data cursor }
          if config.items_count > Platform.datalogging_max_signal then
            (.Overflow, request_data, config)
          else
            match decode_items request config.items_count.toNat 0 (cursor + 1) config with
            | (config, none) => (.InvalidRequest, request_data, config)
            | (config, some cursor) =>
              if cursor ≠ request.data_length.toNat then (.InvalidRequest, request_data, config)
              else (.OK, request_data, config)

end CodecV1_0

end scrutiny.protocol
