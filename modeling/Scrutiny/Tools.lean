import Scrutiny.Types

open foundation

namespace scrutiny

structure Timebase where
  m_time_100ns : uint32_t
  deriving DecidableEq, Repr

namespace Timebase

def step (self : Timebase) (timestep_100ns : timediff_t) : Timebase :=
  { m_time_100ns := self.m_time_100ns + timestep_100ns }

def get_timestamp (self : Timebase) : timestamp_t := self.m_time_100ns

def elapsed_since (self : Timebase) (timestamp : timestamp_t) : timediff_t :=
  self.m_time_100ns - timestamp

def has_expired (self : Timebase) (timestamp : timestamp_t) (timeout_100ns : timediff_t) : Bool :=
  decide (self.elapsed_since timestamp ≥ timeout_100ns)

end Timebase

namespace tools

def get_required_type_size_8bits (size : uint8_t) : VariableTypeSize :=
  if size ≤ 1 then VariableTypeSize._8
  else if size ≤ 2 then VariableTypeSize._16
  else if size ≤ 4 then VariableTypeSize._32
  else if size ≤ 8 then VariableTypeSize._64
  else if size ≤ 16 then VariableTypeSize._128
  else if size ≤ 32 then VariableTypeSize._256
  else VariableTypeSize._undef

def make_type (tt : VariableTypeType) (ts : VariableTypeSize) : VariableType :=
  if tt = VariableTypeType._undef ∨ ts = VariableTypeSize._undef then VariableType.unknown
  else tt ||| ts

def get_var_type_type (vt : VariableType) : VariableTypeType := vt &&& 0xF0

section

variable [Platform]

def get_platform_boolean_size_8bits : uint8_t := Platform.sizeof_bool

def get_platform_boolean_size : VariableTypeSize :=
  get_required_type_size_8bits get_platform_boolean_size_8bits

def get_platform_boolean : VariableType :=
  make_type VariableTypeType._boolean get_platform_boolean_size

-- The result is a `uint_least8_t`: an exponent of 8 or more leaves 0.
def get_type_size_8bits (vt : VariableType) : uint8_t :=
  if vt = VariableType.unknown then 0
  else if vt = VariableType.boolean then get_platform_boolean_size_8bits
  else BitVec.ofNat 8 (1 <<< (vt &&& 0xF).toNat)

def get_type_size_char (vt : VariableType) : uint8_t := get_type_size_8bits vt / 1

def is_supported_type (vt : VariableType) : Bool :=
  let tt := get_var_type_type vt
  let ts := get_type_size_8bits vt
  if vt = VariableType.boolean then true
  else if ts = 0 then false
  else if ts > 8 then false
  else if tt = VariableTypeType._boolean then ts == get_platform_boolean_size_8bits
  else if tt = VariableTypeType._float then ts == 4 || ts == 8
  else tt == VariableTypeType._uint || tt == VariableTypeType._sint

end

/-- A C string is given by the characters before its terminator; null has none. -/
def strnlen (s : List uint8_t) (maxlen : Nat) : Nat := min s.length maxlen

def is_float_finite (val : uint32_t) : Bool := ((val >>> 23) &&& 0xFF) != 0xFF

def crc32_table : List uint32_t :=
  [0x00000000, 0x1DB71064, 0x3B6E20C8, 0x26D930AC, 0x76DC4190, 0x6B6B51F4, 0x4DB26158, 0x5005713C,
    0xEDB88320, 0xF00F9344, 0xD6D6A3E8, 0xCB61B38C, 0x9B64C2B0, 0x86D3D2D4, 0xA00AE278, 0xBDBDF21C]

def crc32_lookup (index : uint32_t) : uint32_t := crc32_table.getD (index &&& 0x0F).toNat 0

def crc32_byte (crc : uint32_t) (byte : uint8_t) : uint32_t :=
  let crc := crc32_lookup (crc ^^^ byte.setWidth 32) ^^^ (crc >>> 4)
  crc32_lookup (crc ^^^ (byte >>> 4).setWidth 32) ^^^ (crc >>> 4)

def crc32 (data : List uint8_t) (start_value : uint32_t) : uint32_t :=
  ~~~ (data.foldl crc32_byte (~~~ start_value))

end tools

end scrutiny
