import Scrutiny.MainHandler.State
import Scrutiny.Protocol.DatalogCodec

open foundation

namespace scrutiny.MainHandler

open datalogging protocol

variable [Platform]

/-- The data of the datalogger is read from the main handler's own copy of the state. -/
def datalogging_data_available (self : Datalogging) : Bool :=
  self.threadsafe_data.datalogger_state == .AcquisitionCompleted

/-- Asks the owner to release the datalogger, unless it was asked already. -/
def request_release (self : Datalogging) : Datalogging :=
  if self.pending_ownership_release then self else { self with request_ownership_release := true }

/-- The permission to use an operand. -/
def operand_permission (m_config : Config) (operand : Operand) : ResponseCode :=
  if operand.type = OperandType.Var ∨ operand.type = OperandType.VarBit then
    if touches_forbidden_region m_config operand.addr
        (tools.get_type_size_char operand.datatype).toNat then .Forbidden
    else .OK
  else if operand.type = OperandType.Rpv then
    if !m_config.is_read_published_values_configured || !rpv_exists m_config operand.id then
      .FailureToProceed
    else .OK
  else .OK

def item_permission (m_config : Config) (item : LoggableItem) : ResponseCode :=
  if item.type = LoggableType.Memory then
    if touches_forbidden_region m_config item.address item.size.toNat then .Forbidden else .OK
  else if item.type = LoggableType.Rpv then
    if !m_config.is_read_published_values_configured || !rpv_exists m_config item.id then
      .FailureToProceed
    else .OK
  else .OK

/-- A loop that stores the first code other than OK over the one it started with. -/
def first_failure (code : ResponseCode) (codes : List ResponseCode) : ResponseCode :=
  (codes.find? (· ≠ .OK)).getD code

def configuration_permission (m_config : Config) (config : Configuration) : ResponseCode :=
  let code := first_failure .OK (config.operand_list.map (operand_permission m_config))
  first_failure code (config.item_list.map (item_permission m_config))

/-- Sets the configuration that a request was decoded into. -/
def set_configuration (self : Datalogging) (m_config : Configuration) : Datalogging :=
  { self with datalogger := { self.datalogger with m_config } }

/-- The part of ConfigureDatalog that is reached when no loop is known to own the
datalogger. -/
def configure_datalogger (self : MainHandler) (loops : LoopId → LoopHandler) (request : Request)
    (d : Datalogging) : ResponseCode × Datalogging :=
  let (code, request_data, config) :=
    CodecV1_0.decode_datalogging_configure_request request d.datalogger.m_config
  let d := set_configuration d config
  let loop_id := request_data.loop_id.toNat
  if code ≠ .OK then (code, d)
  else if request_data.loop_id ≥ self.m_config.m_loop_count then (.FailureToProceed, d)
  else if (loops loop_id).datalogging_allowed = false then (.Forbidden, d)
  else
    let code := configuration_permission self.m_config config
    if code ≠ .OK then (code, d)
    else
      let d := { d with
        datalogger := d.datalogger.configure self.m_config (some loop_id) request_data.config_id }
      if d.datalogger.config_valid then (.OK, { d with new_owner := some loop_id })
      else (.InvalidRequest, d)

/-- The datalogger is put back to its startup state when its configuration fails. -/
def reset_on_failure (result : ResponseCode × Datalogging) : ResponseCode × Datalogging :=
  if result.1 ≠ .OK ∧ result.1 ≠ .ProcessAgain then
    (result.1, { result.2 with datalogger := result.2.datalogger.reset })
  else result

def configure_datalog (self : MainHandler) (loops : LoopId → LoopHandler) (request : Request) :
    ResponseCode × Datalogging :=
  let d := { self.m_datalogging with reading_in_progress := false }
  reset_on_failure <|
    match d.owner with
    | some _ => (.ProcessAgain, request_release d)
    | none => self.configure_datalogger loops request d

/-- The check shared by ArmTrigger and DisarmTrigger. -/
def accepts_commands (self : Datalogging) : Bool :=
  self.owner.isSome && !self.pending_ownership_release

def arm_trigger (self : Datalogging) : ResponseCode × Datalogging :=
  if accepts_commands self then (.OK, { self with request_arm_trigger := true })
  else (.FailureToProceed, self)

def disarm_trigger (self : Datalogging) : ResponseCode × Datalogging :=
  if accepts_commands self then (.OK, { self with request_disarm_trigger := true })
  else (.FailureToProceed, self)

def datalog_setup (self : MainHandler) : ResponseData.DataLogControl.GetSetup where
  buffer_size := BitVec.ofNat 32 self.m_config.m_datalogger_buffer_size
  data_encoding := EncodingType.RAW
  max_signal_count := Platform.datalogging_max_signal

def datalog_status (self : Datalogging) : ResponseData.DataLogControl.GetStatus where
  state := self.threadsafe_data.datalogger_state.code
  bytes_to_acquire_from_trigger_to_completion :=
    BitVec.ofNat 32 self.threadsafe_data.bytes_to_acquire_from_trigger_to_completion
  write_counter_since_trigger := BitVec.ofNat 32 self.threadsafe_data.write_counter_since_trigger

def acquisition_metadata (self : DataLogger) :
    ResponseData.DataLogControl.GetAcquisitionMetadata where
  acquisition_id := self.get_acquisition_id
  config_id := self.get_config_id
  number_of_points := BitVec.ofNat 32 self.m_encoder.get_entry_count
  data_size := BitVec.ofNat 32 (RawFormatReader.get_total_size_char self.m_encoder)
  points_after_trigger := BitVec.ofNat 32 self.log_points_after_trigger

/-- Starts a reading session, unless one is in progress. -/
def start_reading (self : Datalogging) : Datalogging :=
  if self.reading_in_progress then self
  else
    { self with
      datalogger := { self.datalogger with m_encoder := self.datalogger.m_encoder.reset_reader }
      reading_in_progress := true
      read_acquisition_rolling_counter := 0
      read_acquisition_crc := 0 }

def read_acquisition (self : Datalogging) (response : Response) :
    (ResponseCode × Response) × Datalogging :=
  if self.owner = none then ((.FailureToProceed, response), self)
  else if datalogging_data_available self then
    let self := start_reading self
    let result := CodecV1_0.encode_response_datalogging_read_acquisition {
        acquisition_id := self.datalogger.get_acquisition_id
        rolling_counter := self.read_acquisition_rolling_counter }
      self.datalogger.m_encoder self.read_acquisition_crc response
    ((result.code, result.response), { self with
      datalogger := { self.datalogger with m_encoder := result.encoder }
      read_acquisition_crc := result.crc
      read_acquisition_rolling_counter := self.read_acquisition_rolling_counter + 1
      reading_in_progress := decide (result.code = .OK) && !result.finished })
  else ((.FailureToProceed, response), { self with reading_in_progress := false })

def reset_datalogger (self : Datalogging) : ResponseCode × Datalogging :=
  match self.owner with
  | some _ => (.ProcessAgain, request_release self)
  | none => (.OK, { self with datalogger := self.datalogger.reset })

def process_datalog_control (self : MainHandler) (loops : LoopId → LoopHandler)
    (request : Request) (response : Response) : (ResponseCode × Response) × Datalogging :=
  let d := self.m_datalogging
  if !self.m_config.is_datalogging_configured then ((.UnsupportedFeature, response), d)
  else
    match DataLogControl.Subfunction.cast request.subfunction_id with
    | some .GetSetup =>
      (CodecV1_0.encode_response_datalogging_get_setup self.datalog_setup response, d)
    | some .ConfigureDatalog =>
      let (code, d) := self.configure_datalog loops request
      ((code, response), d)
    | some .ArmTrigger =>
      let (code, d) := arm_trigger d
      ((code, response), d)
    | some .DisarmTrigger =>
      let (code, d) := disarm_trigger d
      ((code, response), d)
    | some .GetStatus =>
      (CodecV1_0.encode_response_datalogging_status (datalog_status d) response, d)
    | some .GetAcquisitionMetadata =>
      if datalogging_data_available d then
        (CodecV1_0.encode_response_datalogging_get_acquisition_metadata
          (acquisition_metadata d.datalogger) response, d)
      else ((.FailureToProceed, response), d)
    | some .ReadAcquisition => read_acquisition d response
    | some .ResetDatalogger =>
      let (code, d) := reset_datalogger d
      ((code, response), d)
    | none => ((.UnsupportedFeature, response), d)

end scrutiny.MainHandler
