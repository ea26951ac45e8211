import Scrutiny.MainHandler.State

open foundation

namespace scrutiny.MainHandler

open protocol

variable [Platform]

def has_at_least_one_loop_with_datalogging (s : System) : Bool :=
  (List.range s.loop_count).any fun i => (s.loops i).datalogging_allowed

def supported_features (s : System) : ResponseData.GetInfo.GetSupportedFeatures where
  memory_write := s.main.m_config.memory_write_enable
  datalogging :=
    s.main.m_config.is_datalogging_configured && has_at_least_one_loop_with_datalogging s
  user_command := s.main.m_config.is_user_command_callback_set
  _64bits := true

/-- The two kinds of region are looked up alike. -/
def special_memory_region (ranges_set : Bool) (ranges : List AddressRange) (count : uint8_t)
    (request_data : RequestData.GetSpecialMemoryRegionLocation) (response : Response) :
    ResponseCode × Response :=
  if !ranges_set then (.FailureToProceed, response)
  else if request_data.region_index ≥ count then (.FailureToProceed, response)
  else
    match ranges[request_data.region_index.toNat]? with
    | some range =>
      CodecV1_0.encode_response_special_memory_region_location {
        region_type := request_data.region_type
        region_index := request_data.region_index
        start := range.start
        end_addr := range.end_addr } response
    | none => (.FailureToProceed, response)

def get_special_memory_location (m_config : Config) (request : Request) (response : Response) :
    ResponseCode × Response :=
  match CodecV1_0.decode_request_get_special_memory_region_location request with
  | none => (.InvalidRequest, response)
  | some request_data =>
    match GetInfo.MemoryRegionType.cast request_data.region_type with
    | some .ReadOnly =>
      special_memory_region m_config.is_readonly_address_range_set m_config.readonly_ranges
        m_config.readonly_ranges_count request_data response
    | some .Forbidden =>
      special_memory_region m_config.is_forbidden_address_range_set m_config.forbidden_ranges
        m_config.forbidden_ranges_count request_data response
    | none => (.InvalidRequest, response)

/-- Writes the definitions until one does not fit. -/
def write_rpv_definitions : List RuntimePublishedValue → ResponseEncoderBase →
    ResponseCode × ResponseEncoderBase
  | [], encoder => (.OK, encoder)
  | rpv :: rpvs, encoder =>
    let encoder := GetRPVDefinitionResponseEncoder.write encoder rpv
    if encoder.overflow then (.Overflow, encoder) else write_rpv_definitions rpvs encoder

def get_rpv_definition (s : System) (request : Request) (response : Response) :
    ResponseCode × Response :=
  match CodecV1_0.decode_request_get_rpv_definition request with
  | none => (.InvalidRequest, response)
  | some request_data =>
    let encoder := ResponseEncoderBase.init response s.comm.tx_buffer_size
    let count := s.main.m_config.get_rpv_count
    if request_data.start_index ≥ count then (.FailureToProceed, encoder.m_response)
    else if request_data.start_index.toNat + request_data.count.toNat > count.toNat then
      (.FailureToProceed, encoder.m_response)
    else
      let rpvs := (s.main.m_config.get_rpvs_array.drop request_data.start_index.toNat).take
        request_data.count.toNat
      let (code, encoder) := write_rpv_definitions rpvs encoder
      (code, encoder.m_response)

/-- The result of decoding is not checked: without it the loop identifier is what
the stack holds. -/
def get_loop_definition (s : System) (stack : Stack) (request : Request) (response : Response) :
    ResponseCode × Response :=
  let loop_id := (CodecV1_0.decode_request_get_loop_definition request).getD stack.loop_id
  if !s.main.m_config.is_loop_handlers_configured || loop_id ≥ s.main.m_config.m_loop_count then
    (.FailureToProceed, response)
  else
    let loop := s.loops loop_id.toNat
    CodecV1_0.encode_response_get_loop_definition {
      loop_id := loop_id
      loop_type := loop.loop_type.code
      support_datalogging := loop.datalogging_allowed
      timestep_100ns := loop.get_timestep_100ns
      loop_name_length := BitVec.ofNat 8 (tools.strnlen loop.m_name MAX_LOOP_NAME_LENGTH)
      loop_name := loop.m_name } response

def process_get_info (s : System) (stack : Stack) (request : Request) (response : Response) :
    ResponseCode × Response :=
  match GetInfo.Subfunction.cast request.subfunction_id with
  | some .GetprotocolVersion =>
    CodecV1_0.encode_response_protocol_version PROTOCOL_VERSION response
  | some .GetSoftwareId => CodecV1_0.encode_response_software_id response
  | some .GetSupportedFeatures =>
    CodecV1_0.encode_response_supported_features (supported_features s) response
  | some .GetSpecialMemoryRegionCount =>
    CodecV1_0.encode_response_special_memory_region_count {
      nbr_readonly_region := s.main.m_config.readonly_ranges_count
      nbr_forbidden_region := s.main.m_config.forbidden_ranges_count } response
  | some .GetSpecialMemoryLocation => get_special_memory_location s.main.m_config request response
  | some .GetRuntimePublishedValuesCount =>
    CodecV1_0.encode_response_get_rpv_count s.main.m_config.get_rpv_count response
  | some .GetRuntimePublishedValuesDefinition => get_rpv_definition s request response
  | some .GetLoopCount =>
    CodecV1_0.encode_response_get_loop_count s.main.m_config.m_loop_count response
  | some .GetLoopDefinition => get_loop_definition s stack request response
  | none => (.UnsupportedFeature, response)

end scrutiny.MainHandler
