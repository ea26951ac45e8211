import Scrutiny.Tools

open foundation

namespace scrutiny

/-- An array given with a count of 8 bits. -/
abbrev AddressRanges := { ranges : List AddressRange // ranges.length < 2 ^ 8 }

/-- An array given with a count of 16 bits. -/
abbrev RuntimePublishedValues := { rpvs : List RuntimePublishedValue // rpvs.length < 2 ^ 16 }

/-- A pointer that may be null is an option, and an array comes with its count. -/
structure Config [Platform] where
  max_bitrate : uint32_t
  session_counter_seed : uint32_t
  display_name : List uint8_t
  memory_write_enable : Bool
  m_rx_buffer : Option ByteBuffer
  m_tx_buffer : Option ByteBuffer
  m_forbidden_address_ranges : Option AddressRanges
  m_readonly_address_ranges : Option AddressRanges
  m_rpvs : Option RuntimePublishedValues
  m_rpv_read_callback : Option RpvReadCallback
  m_rpv_write_callback : Option RpvWriteCallback
  m_user_command_callback : Option user_command_callback_t
  /-- Whether an array of loops was given. -/
  m_loops_set : Bool
  m_rx_buffer_size : uint16_t
  m_tx_buffer_size : uint16_t
  m_loop_count : uint8_t
  m_datalogger_buffer : Option ByteBuffer
  m_datalogger_buffer_size : Nat
  m_datalogger_buffer_size_lt : m_datalogger_buffer_size < 2 ^ Platform.buffer_size_bits
  m_datalogger_trigger_callback : Option trigger_callback_t

namespace Config

variable [Platform]

def is_user_command_callback_set (self : Config) : Bool := self.m_user_command_callback.isSome

def is_forbidden_address_range_set (self : Config) : Bool := self.m_forbidden_address_ranges.isSome

def is_readonly_address_range_set (self : Config) : Bool := self.m_readonly_address_ranges.isSome

def forbidden_ranges (self : Config) : List AddressRange :=
  (self.m_forbidden_address_ranges.map Subtype.val).getD []

def forbidden_ranges_count (self : Config) : uint8_t := BitVec.ofNat 8 self.forbidden_ranges.length

def readonly_ranges (self : Config) : List AddressRange :=
  (self.m_readonly_address_ranges.map Subtype.val).getD []

def readonly_ranges_count (self : Config) : uint8_t := BitVec.ofNat 8 self.readonly_ranges.length

def get_rpvs_array (self : Config) : List RuntimePublishedValue :=
  (self.m_rpvs.map Subtype.val).getD []

def get_rpv_count (self : Config) : uint16_t := BitVec.ofNat 16 self.get_rpvs_array.length

def is_read_published_values_configured (self : Config) : Bool :=
  self.m_rpv_read_callback.isSome && self.m_rpvs.isSome && decide (self.get_rpv_count > 0)

def is_write_published_values_configured (self : Config) : Bool :=
  self.m_rpv_write_callback.isSome && self.m_rpvs.isSome && decide (self.get_rpv_count > 0)

def is_loop_handlers_configured (self : Config) : Bool :=
  self.m_loops_set && decide (self.m_loop_count > 0)

def is_datalogging_configured (self : Config) : Bool :=
  self.m_datalogger_buffer.isSome && self.m_datalogger_buffer_size != 0

end Config

-- These functions of the main handler read nothing of it but its configuration.
namespace MainHandler

variable [Platform]

def get_rpv (m_config : Config) (id : uint16_t) : Option RuntimePublishedValue :=
  m_config.get_rpvs_array.find? fun rpv => rpv.id == id

def rpv_exists (m_config : Config) (id : uint16_t) : Bool := (get_rpv m_config id).isSome

/-- The address of the last byte of a block, in `uintptr_t` arithmetic. -/
def block_end (block_start length : Nat) : Nat :=
  uintptr (block_start + length + address_space - 1)

def touches_region (ranges : List AddressRange) (addr_start length : Nat) : Bool :=
  ranges.any fun range =>
    decide (addr_start ≤ range.end_addr) && decide (block_end addr_start length ≥ range.start)

def touches_forbidden_region (m_config : Config) (addr_start length : Nat) : Bool :=
  if !m_config.is_forbidden_address_range_set then false
  else touches_region m_config.forbidden_ranges addr_start length

def touches_readonly_region (m_config : Config) (addr_start length : Nat) : Bool :=
  if !m_config.is_readonly_address_range_set then false
  else touches_region m_config.readonly_ranges addr_start length

/-- Without an array of ranges there is none to touch. -/
theorem touches_forbidden_region_eq (m_config : Config) (addr_start length : Nat) :
    touches_forbidden_region m_config addr_start length =
      touches_region m_config.forbidden_ranges addr_start length := by
  cases hranges : m_config.m_forbidden_address_ranges with
  | none =>
    simp [touches_forbidden_region, Config.is_forbidden_address_range_set, hranges,
      Config.forbidden_ranges, touches_region]
  | some ranges =>
    simp [touches_forbidden_region, Config.is_forbidden_address_range_set, hranges]

theorem touches_readonly_region_eq (m_config : Config) (addr_start length : Nat) :
    touches_readonly_region m_config addr_start length =
      touches_region m_config.readonly_ranges addr_start length := by
  cases hranges : m_config.m_readonly_address_ranges with
  | none =>
    simp [touches_readonly_region, Config.is_readonly_address_range_set, hranges,
      Config.readonly_ranges, touches_region]
  | some ranges =>
    simp [touches_readonly_region, Config.is_readonly_address_range_set, hranges]

/-- The callback is configured wherever this is used. -/
def read_rpv (m_config : Config) (rpv : RuntimePublishedValue) (caller : Option LoopId)
    (memory : Memory) : (Bool × AnyType) × Memory :=
  match m_config.m_rpv_read_callback with
  | some callback =>
    let (result, bytes) := callback rpv caller memory.bytes
    (result, memory.after_callback bytes)
  | none => ((false, 0), memory)

def write_rpv (m_config : Config) (rpv : RuntimePublishedValue) (v : AnyType)
    (caller : Option LoopId) (memory : Memory) : Bool × Memory :=
  match m_config.m_rpv_write_callback with
  | some callback =>
    let (result, bytes) := callback rpv v caller memory.bytes
    (result, memory.after_callback bytes)
  | none => (false, memory)

end MainHandler

end scrutiny
