import Scrutiny.Protocol.CommHandler
import Scrutiny.LoopHandler

open foundation

namespace scrutiny

open datalogging protocol

inductive DataloggingError where
  | NoError
  | UnexpectedRelease
  | UnexpectedClaim
  deriving DecidableEq, Repr

structure ThreadSafeData where
  bytes_to_acquire_from_trigger_to_completion : Nat
  write_counter_since_trigger : Nat
  datalogger_state : DataLogger.State
  deriving DecidableEq, Repr

/-- The member `m_datalogging` of the main handler. -/
structure Datalogging where
  datalogger : DataLogger
  threadsafe_data : ThreadSafeData
  owner : Option LoopId
  new_owner : Option LoopId
  read_acquisition_crc : uint32_t
  read_acquisition_rolling_counter : uint8_t
  error : DataloggingError
  request_arm_trigger : Bool
  request_ownership_release : Bool
  request_disarm_trigger : Bool
  pending_ownership_release : Bool
  reading_in_progress : Bool

/-- The codec keeps nothing between two requests and is not part of the state. -/
structure MainHandler [Platform] where
  m_config : Config
  m_comm_handler : CommHandler
  m_timebase : Timebase
  m_process_again_timestamp : timestamp_t
  m_processing_request : Bool
  m_disconnect_pending : Bool
  m_enabled : Bool
  m_process_again_timestamp_taken : Bool
  m_datalogging : Datalogging

/-- The main handler with what its pointers lead to: the loops and the target memory. -/
structure System [Platform] where
  main : MainHandler
  loops : LoopId → LoopHandler
  memory : Memory

/-- What the handlers find in local variables they have not written. -/
structure Stack where
  loop_id : uint8_t
  v : AnyType

namespace System

variable [Platform]

def comm (self : System) : CommHandler := self.main.m_comm_handler
def datalogging (self : System) : Datalogging := self.main.m_datalogging
def datalogger (self : System) : DataLogger := self.main.m_datalogging.datalogger
def loop_count (self : System) : Nat := self.main.m_config.m_loop_count.toNat

/-- The slot from the main handler to a loop. -/
def main2loop (self : System) (id : LoopId) : Option Main2LoopMessage :=
  (self.loops id).m_main2loop_msg

/-- The slot from a loop to the main handler. -/
def loop2main (self : System) (id : LoopId) : Option Loop2MainMessage :=
  (self.loops id).m_loop2main_msg

def set_comm (self : System) (m_comm_handler : CommHandler) : System :=
  { self with main := { self.main with m_comm_handler } }

def set_datalogging (self : System) (m_datalogging : Datalogging) : System :=
  { self with main := { self.main with m_datalogging } }

def set_loop (self : System) (id : LoopId) (loop : LoopHandler) : System :=
  { self with loops := Function.update self.loops id loop }

/-- Puts a message in the slot of a loop. -/
def send (self : System) (id : LoopId) (msg : Main2LoopMessage) : System :=
  self.set_loop id { self.loops id with m_main2loop_msg := some msg }

section

variable (s : System) (id i : LoopId) (msg : Main2LoopMessage) (m_datalogging : Datalogging)

@[simp] theorem set_datalogging_datalogging :
    (s.set_datalogging m_datalogging).datalogging = m_datalogging := rfl

@[simp] theorem set_datalogging_datalogger :
    (s.set_datalogging m_datalogging).datalogger = m_datalogging.datalogger := rfl

@[simp] theorem set_datalogging_main2loop :
    (s.set_datalogging m_datalogging).main2loop i = s.main2loop i := rfl

@[simp] theorem set_datalogging_loop2main :
    (s.set_datalogging m_datalogging).loop2main i = s.loop2main i := rfl

@[simp] theorem set_loop_main2loop (loop : LoopHandler) :
    (s.set_loop id loop).main2loop i =
      if i = id then loop.m_main2loop_msg else s.main2loop i := by
  by_cases h : i = id <;> simp [main2loop, set_loop, h]

@[simp] theorem set_loop_loop2main (loop : LoopHandler) :
    (s.set_loop id loop).loop2main i =
      if i = id then loop.m_loop2main_msg else s.loop2main i := by
  by_cases h : i = id <;> simp [loop2main, set_loop, h]

@[simp] theorem send_main2loop :
    (s.send id msg).main2loop i = if i = id then some msg else s.main2loop i := by
  simp [send]

@[simp] theorem send_loop2main : (s.send id msg).loop2main i = s.loop2main i := by
  by_cases h : i = id <;> simp [send, loop2main, set_loop, h]

end

end System

end scrutiny
