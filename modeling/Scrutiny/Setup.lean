import Mathlib

/-! Compile-time configuration of the library and the properties of the target it
is compiled for. The model is of a target with 8-bit `char`, little-endian storage
and support for 64-bit types, with datalogging and protected regions compiled in. -/

namespace scrutiny

abbrev uint8_t := BitVec 8
abbrev uint16_t := BitVec 16
abbrev uint32_t := BitVec 32
abbrev uint64_t := BitVec 64

abbrev timestamp_t := uint32_t
abbrev timediff_t := uint32_t

/-- The floating-point operations of the target, on the bit patterns of `float`
and `double`. The trigger conditions use no others. -/
structure FloatUnit where
  eq : uint32_t → uint32_t → Bool
  lt : uint32_t → uint32_t → Bool
  le : uint32_t → uint32_t → Bool
  add : uint32_t → uint32_t → uint32_t
  sub : uint32_t → uint32_t → uint32_t
  neg : uint32_t → uint32_t
  of_uint : uint64_t → uint32_t
  of_sint : uint64_t → uint32_t
  to_sint : uint32_t → uint64_t
  of_double : uint64_t → uint32_t

class Platform where
  /-- `SIZEOF_8BITS(void *)`. -/
  addr_size : Nat
  addr_size_supported : addr_size = 1 ∨ addr_size = 2 ∨ addr_size = 4 ∨ addr_size = 8
  sizeof_bool : uint8_t
  float_unit : FloatUnit
  /-- The bits of `buffer_size_t`: 32 with `SCRUTINY_DATALOGGING_BUFFER_32BITS`, else 16. -/
  buffer_size_bits : Nat
  buffer_size_supported : buffer_size_bits = 16 ∨ buffer_size_bits = 32
  datalogging_max_signal : uint8_t
  datalogging_max_signal_supported : datalogging_max_signal ≤ 254
  request_max_process_time_us : uint32_t
  comm_rx_timeout_us : uint32_t
  comm_heartbeat_timeout_us : uint32_t
  /-- Injected into the firmware after the build. -/
  software_id : List uint8_t
  software_id_length : software_id.length = 16

section

variable [Platform]

/-- The number of addresses, one more than the largest `uintptr_t`. -/
def address_space : Nat := 2 ^ (8 * Platform.addr_size)

/-- Conversion to `uintptr_t`. -/
def uintptr (n : Nat) : Nat := n % address_space

/-- Conversion to `buffer_size_t`. -/
def buffer_size (n : Nat) : Nat := n % 2 ^ Platform.buffer_size_bits

/-- Subtraction between values of `buffer_size_t`. -/
def buffer_size_sub (n m : Nat) : Nat := buffer_size (n + 2 ^ Platform.buffer_size_bits - m)

theorem address_space_pos : 0 < address_space := Nat.two_pow_pos _

theorem uintptr_of_lt {n : Nat} (h : n < address_space) : uintptr n = n := Nat.mod_eq_of_lt h

theorem addr_size_pos : 0 < Platform.addr_size := by
  rcases Platform.addr_size_supported with h | h | h | h <;> omega

theorem addr_size_le : Platform.addr_size ≤ 8 := by
  rcases Platform.addr_size_supported with h | h | h | h <;> omega

end

end scrutiny
