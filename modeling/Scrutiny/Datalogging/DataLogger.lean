import Scrutiny.Datalogging.Trigger
import Scrutiny.Datalogging.RawEncoder
import Scrutiny.Datalogging.Fetch

open foundation

namespace scrutiny.datalogging

namespace DataLogger

inductive State where
  | Idle
  | Configured
  | Armed
  | Triggered
  | AcquisitionCompleted
  | Error
  deriving DecidableEq, Repr

def State.code : State → uint8_t
  | Idle => 0
  | Configured => 1
  | Armed => 2
  | Triggered => 3
  | AcquisitionCompleted => 4
  | Error => 5

end DataLogger

structure TriggerData where
  active_condition : trigger.ActiveCondition
  condition_data : trigger.ConditionSharedData
  rising_edge_timestamp : timestamp_t
  previous_val : Bool

/-- The pointers to the main handler and to the timebases are followed by the
callers: functions that use them are given what they point to. -/
structure DataLogger where
  m_config : Configuration
  m_encoder : RawFormatEncoder
  m_buffer_size : Nat
  m_trigger_callback : Option trigger_callback_t
  m_owner : Option LoopId
  m_timebase : Option LoopId
  m_trigger_timestamp : timestamp_t
  m_trigger_cursor_location : Nat
  m_remaining_data_to_write : Nat
  m_log_points_after_trigger : Nat
  m_decimation_counter : uint16_t
  m_acquisition_id : uint16_t
  m_config_id : uint16_t
  m_manual_trigger : Bool
  m_config_valid : Bool
  m_state : DataLogger.State
  m_trigger : TriggerData
  /-- `m_stack_data.check_trigger.ops_data`. -/
  ops_data : Nat → AnyValAndTypePair

namespace DataLogger

variable [Platform]

def data_acquired (self : DataLogger) : Bool := self.m_state == .AcquisitionCompleted
def get_acquisition_id (self : DataLogger) : uint16_t := self.m_acquisition_id
def get_config_id (self : DataLogger) : uint16_t := self.m_config_id
def get_state (self : DataLogger) : State := self.m_state
def config_valid (self : DataLogger) : Bool := self.m_config_valid
def log_points_after_trigger (self : DataLogger) : Nat := self.m_log_points_after_trigger
def get_owner (self : DataLogger) : Option LoopId := self.m_owner

def set_owner (self : DataLogger) (owner : Option LoopId) : DataLogger :=
  { self with m_owner := owner }

def get_bytes_to_acquire_from_trigger_to_completion (self : DataLogger) : Nat :=
  if self.m_state = .Triggered then self.m_remaining_data_to_write else 0

def data_counter_since_trigger (self : DataLogger) : Nat :=
  if self.m_state = .Triggered then self.m_encoder.get_data_write_counter else 0

def reset (self : DataLogger) : DataLogger :=
  { self with
    m_state := .Idle
    m_trigger := { self.m_trigger with
      previous_val := false
      rising_edge_timestamp := 0
      active_condition := trigger.AlwaysTrueCondition }
    m_trigger_cursor_location := 0
    m_trigger_timestamp := 0
    m_remaining_data_to_write := 0
    m_config_valid := false
    m_manual_trigger := false
    m_decimation_counter := 0
    m_log_points_after_trigger := 0 }

def init (self : DataLogger) (handler : Config) (buffer : Option ByteBuffer) (buffer_size : Nat)
    (trigger_callback : Option trigger_callback_t) : DataLogger × Status :=
  let self := { self with
    m_timebase := none
    m_buffer_size := buffer_size
    m_trigger_callback := trigger_callback
    m_owner := none
    m_encoder := self.m_encoder.init handler self.m_config buffer buffer_size
    m_acquisition_id := 0 }
  (self.reset, .SUCCESS)

def operand_valid (handler : Config) (operand : Operand) : Bool :=
  if operand.type = OperandType.Literal then tools.is_float_finite operand.val
  else if operand.type = OperandType.Rpv then
    handler.is_read_published_values_configured && MainHandler.rpv_exists handler operand.id
  else if operand.type = OperandType.Var then tools.is_supported_type operand.datatype
  else if operand.type = OperandType.VarBit then
    decide (operand.bitoffset.toNat ≤ sizeof_BiggestUint * 8 - 1 ∧
      operand.bitsize.toNat ≤ sizeof_BiggestUint * 8) &&
      tools.is_supported_type operand.datatype &&
      decide (operand.bitoffset.toNat + operand.bitsize.toNat ≤
        (tools.get_type_size_char operand.datatype).toNat * 8)
  else false

def item_valid (handler : Config) (item : LoggableItem) : Bool :=
  if item.type = LoggableType.Rpv then
    handler.is_read_published_values_configured && MainHandler.rpv_exists handler item.id
  else item.type == LoggableType.Memory || item.type == LoggableType.Time

/-- The checks made before the operands and the items are read. -/
def sizes_valid (config : Configuration) (active_condition : trigger.ActiveCondition) : Bool :=
  decide (config.items_count ≤ Platform.datalogging_max_signal) &&
    config.items_count != 0 &&
    decide (config.trigger.operand_count.toNat ≤ MAX_OPERANDS) &&
    decide (config.trigger.condition.toNat < trigger.CONDITION_CONFIG_LUT.length) &&
    config.trigger.operand_count == active_condition.operand_count &&
    config.decimation != 0

def configure (self : DataLogger) (handler : Config) (timebase : Option LoopId)
    (config_id : uint16_t) : DataLogger :=
  let self := self.reset
  let active_condition :=
    (trigger.CONDITION_CONFIG_LUT[self.m_config.trigger.condition.toNat]?).getD
      self.m_trigger.active_condition
  let config_valid := sizes_valid self.m_config active_condition &&
    self.m_config.operand_list.all (operand_valid handler) &&
    self.m_config.item_list.all (item_valid handler)
  let self := { self with
    m_timebase := timebase
    m_config_id := config_id
    m_trigger := { self.m_trigger with active_condition := active_condition }
    m_config_valid := config_valid }
  if self.m_config_valid then
    let condition_data := match active_condition.reset_fn with
      | some reset_fn => reset_fn self.m_trigger.condition_data
      | none => self.m_trigger.condition_data
    { self with
      m_encoder := (self.m_encoder.set_timebase self.m_timebase).reset handler self.m_config
      m_trigger := { self.m_trigger with condition_data := condition_data }
      m_state := .Configured }
  else { self with m_state := .Error }

def arm_trigger (self : DataLogger) : DataLogger :=
  if self.m_state = .Configured ∨ self.m_state = .AcquisitionCompleted ∨
      self.m_state = .Triggered then
    { self with m_state := .Armed }
  else self

def disarm_trigger (self : DataLogger) : DataLogger :=
  if self.m_state = .Armed ∨ self.m_state = .AcquisitionCompleted ∨
      self.m_state = .Triggered then
    { self with m_state := .Configured }
  else self

/-- The timebase configured, which the code expects to be set. -/
def timebase (self : DataLogger) (timebases : LoopId → Timebase) : Timebase :=
  (self.m_timebase.map timebases).getD ⟨0⟩

def process_acquisition (self : DataLogger) (handler : Config) (timebases : LoopId → Timebase)
    (memory : Memory) : DataLogger × Memory :=
  let counter := self.m_decimation_counter + 1
  if counter ≥ self.m_config.decimation then
    let timebase := (self.m_encoder.m_timebase.map timebases).getD ⟨0⟩
    let (encoder, memory) :=
      self.m_encoder.encode_next_entry handler self.m_config timebase self.m_owner memory
    ({ self with m_encoder := encoder, m_decimation_counter := 0 }, memory)
  else ({ self with m_decimation_counter := counter }, memory)

/-- Fetches the operands from `i` on; the flag is false when one cannot be fetched. -/
def fetch_operands (handler : Config) : Nat → Nat → DataLogger → Memory →
    (Bool × DataLogger) × Memory
  | 0, _, self, memory => ((true, self), memory)
  | n + 1, i, self, memory =>
    let ((success, pair), memory) :=
      fetch_operand handler (self.m_config.trigger.operands i) (self.ops_data i) self.m_owner memory
    if success = false then
      ((false, { self with ops_data := Function.update self.ops_data i pair }), memory)
    else
      let pair := convert_to_compare_type pair
      fetch_operands handler n (i + 1)
        { self with ops_data := Function.update self.ops_data i pair } memory

/-- Evaluates the active condition on the operands fetched. -/
def evaluate_condition (self : DataLogger) (timebases : LoopId → Timebase) : Bool × DataLogger :=
  let timebase := self.timebase timebases
  let (condition_result, condition_data) :=
    self.m_trigger.active_condition.eval_fn self.m_trigger.condition_data self.ops_data
  let rising_edge_timestamp :=
    if condition_result ∧ self.m_trigger.previous_val = false then timebase.get_timestamp
    else self.m_trigger.rising_edge_timestamp
  let outval := condition_result &&
    timebase.has_expired rising_edge_timestamp self.m_config.trigger.hold_time_100ns
  (outval, { self with
    m_trigger := { self.m_trigger with
      condition_data := condition_data
      rising_edge_timestamp := rising_edge_timestamp
      previous_val := condition_result } })

def check_trigger (self : DataLogger) (handler : Config) (timebases : LoopId → Timebase)
    (memory : Memory) : (Bool × DataLogger) × Memory :=
  let nb_operand := self.m_trigger.active_condition.operand_count.toNat
  if self.m_state ≠ .Armed then ((false, self), memory)
  else if nb_operand > MAX_OPERANDS then ((false, self), memory)
  else if self.m_manual_trigger then
    ((true, { self with
      m_manual_trigger := false
      m_trigger := { self.m_trigger with previous_val := true } }), memory)
  else
    let ((fetched, self), memory) := fetch_operands handler nb_operand 0 self memory
    if fetched = false then ((false, self), memory)
    else (self.evaluate_condition timebases, memory)

def stamp_trigger_point (self : DataLogger) (timebases : LoopId → Timebase) : DataLogger :=
  let encoder := self.m_encoder.reset_write_counter
  let multiplier := (1 <<< 8) - 1 - self.m_config.probe_location.toNat
  let remaining := buffer_size ((self.m_buffer_size * multiplier) >>> 8)
  let remaining :=
    if !encoder.buffer_full then max remaining encoder.remaining_bytes_to_full else remaining
  { self with
    m_trigger_cursor_location := self.m_encoder.get_write_cursor
    m_trigger_timestamp := (self.timebase timebases).get_timestamp
    m_encoder := encoder
    m_remaining_data_to_write :=
      if remaining > self.m_buffer_size then self.m_buffer_size else remaining }

def acquisition_completed (self : DataLogger) (timebases : LoopId → Timebase) : Bool :=
  if self.m_state = .AcquisitionCompleted then true
  else if self.m_state = .Triggered then
    (decide (self.m_config.timeout_100ns > 0) &&
      (self.timebase timebases).has_expired self.m_trigger_timestamp self.m_config.timeout_100ns) ||
      decide (self.m_encoder.get_data_write_counter ≥ self.m_remaining_data_to_write)
  else false

/-- The part of `process` that looks for the trigger. -/
def process_trigger (self : DataLogger) (handler : Config) (timebases : LoopId → Timebase)
    (memory : Memory) : DataLogger × Memory :=
  if self.m_state = .Armed then
    let ((triggered, self), memory) := self.check_trigger handler timebases memory
    if triggered then
      let memory := match self.m_trigger_callback with
        | some trigger_callback => memory.after_callback (trigger_callback memory.bytes)
        | none => memory
      ({ self.stamp_trigger_point timebases with m_state := .Triggered }, memory)
    else (self, memory)
  else (self, memory)

/-- The part of `process` that ends the acquisition. -/
def process_completion (self : DataLogger) (timebases : LoopId → Timebase) : DataLogger :=
  if self.m_state = .Triggered ∧ self.acquisition_completed timebases then
    { self with
      m_acquisition_id := self.m_acquisition_id + 1
      m_state := .AcquisitionCompleted
      m_log_points_after_trigger := self.m_encoder.get_entry_write_counter }
  else self

def process (self : DataLogger) (handler : Config) (timebases : LoopId → Timebase)
    (memory : Memory) : DataLogger × Memory :=
  match self.m_state with
  | .Idle | .Error | .AcquisitionCompleted => (self, memory)
  | .Configured | .Armed | .Triggered =>
    if self.m_encoder.error then ({ self with m_state := .Error }, memory)
    else
      let (self, memory) := self.process_acquisition handler timebases memory
      let (self, memory) := self.process_trigger handler timebases memory
      (self.process_completion timebases, memory)

def force_trigger (self : DataLogger) : DataLogger :=
  if self.m_state = .Armed then { self with m_manual_trigger := true } else self

end DataLogger

end scrutiny.datalogging
