import Scrutiny.Protocol.CodecV1
import Scrutiny.Datalogging.DataLogger

open foundation

namespace scrutiny

open datalogging

inductive Main2LoopMessage where
  | RELEASE_DATALOGGER_OWNERSHIP
  | TAKE_DATALOGGER_OWNERSHIP
  | DATALOGGER_ARM_TRIGGER
  | DATALOGGER_DISARM_TRIGGER
  deriving DecidableEq, Repr

structure DataloggerStatusUpdate where
  state : DataLogger.State
  bytes_to_acquire_from_trigger_to_completion : Nat
  write_counter_since_trigger : Nat
  deriving DecidableEq, Repr

inductive Loop2MainMessage where
  | DATALOGGER_OWNERSHIP_TAKEN
  | DATALOGGER_OWNERSHIP_RELEASED
  | DATALOGGER_DATA_ACQUIRED
  | DATALOGGER_STATUS_UPDATE (datalogger_status_update : DataloggerStatusUpdate)
  deriving DecidableEq, Repr

/-- An `IPCMessage` is its content, if it has one. Sending overwrites it. -/
structure LoopHandler where
  m_timebase : Timebase
  m_main2loop_msg : Option Main2LoopMessage
  m_loop2main_msg : Option Loop2MainMessage
  m_name : List uint8_t
  m_datalogger_data_acquired : Bool
  m_support_datalogging : Bool
  loop_type : LoopType
  m_timestep_100ns : uint32_t
  deriving DecidableEq, Repr

namespace LoopHandler

def datalogging_allowed (self : LoopHandler) : Bool := self.m_support_datalogging

def get_timestep_100ns (self : LoopHandler) : uint32_t :=
  match self.loop_type with
  | .FIXED_FREQ => self.m_timestep_100ns
  | .VARIABLE_FREQ => 0

def init (self : LoopHandler) : LoopHandler :=
  { self with m_main2loop_msg := none, m_loop2main_msg := none, m_datalogger_data_acquired := false }

variable [Platform]

/-- The message about the state of the datalogger. -/
def status_update (datalogger : DataLogger) : DataloggerStatusUpdate :=
  if datalogger.get_state = .Triggered then
    { state := datalogger.get_state
      bytes_to_acquire_from_trigger_to_completion :=
        datalogger.get_bytes_to_acquire_from_trigger_to_completion
      write_counter_since_trigger := datalogger.data_counter_since_trigger }
  else
    { state := datalogger.get_state
      bytes_to_acquire_from_trigger_to_completion := 0
      write_counter_since_trigger := 0 }

def owns_datalogger (id : LoopId) (datalogger : DataLogger) : Bool :=
  decide (datalogger.get_owner = some id)

/-- Acts on a message of the main handler. -/
def process_message (self : LoopHandler) (id : LoopId) (datalogger : DataLogger)
    (msg_in : Main2LoopMessage) : LoopHandler × DataLogger :=
  match msg_in with
  | .TAKE_DATALOGGER_OWNERSHIP =>
    ({ self with
      m_datalogger_data_acquired := false
      m_loop2main_msg := some .DATALOGGER_OWNERSHIP_TAKEN }, datalogger.set_owner (some id))
  | .DATALOGGER_ARM_TRIGGER =>
    (self, if owns_datalogger id datalogger then datalogger.arm_trigger else datalogger)
  | .DATALOGGER_DISARM_TRIGGER =>
    (self, if owns_datalogger id datalogger then datalogger.disarm_trigger else datalogger)
  | .RELEASE_DATALOGGER_OWNERSHIP =>
    if owns_datalogger id datalogger then
      ({ self with m_loop2main_msg := some .DATALOGGER_OWNERSHIP_RELEASED },
        datalogger.set_owner none)
    else (self, datalogger)

def receive_message (self : LoopHandler) (id : LoopId) (datalogger : DataLogger) :
    LoopHandler × DataLogger :=
  match self.m_main2loop_msg, self.m_loop2main_msg with
  | some msg_in, none => { self with m_main2loop_msg := none }.process_message id datalogger msg_in
  | _, _ => (self, datalogger)

/-- Reports on the datalogger the loop owns, when there is room for a message. -/
def send_report (self : LoopHandler) (datalogger : DataLogger) : LoopHandler :=
  if self.m_loop2main_msg.isSome then self
  else if datalogger.data_acquired ∧ self.m_datalogger_data_acquired = false then
    { self with
      m_loop2main_msg := some .DATALOGGER_DATA_ACQUIRED
      m_datalogger_data_acquired := true }
  else
    { self with m_loop2main_msg := some (.DATALOGGER_STATUS_UPDATE (status_update datalogger)) }

end LoopHandler

end scrutiny
