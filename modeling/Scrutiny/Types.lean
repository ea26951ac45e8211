import Scrutiny.Setup
import Scrutiny.Foundation.Buffer

open foundation

namespace scrutiny

abbrev ByteBuffer := Buffer uint8_t

/-- A loop is named by its position in the array given to `Config::set_loops`; a
pointer to a `LoopHandler` is such a position, and null is `none`. -/
abbrev LoopId := Nat

inductive Status where
  | SUCCESS
  | ERROR
  deriving DecidableEq, Repr

structure AddressRange where
  start : Nat
  end_addr : Nat
  deriving DecidableEq, Repr

/-- The raw content of the `AnyType` union. -/
abbrev AnyType := uint64_t

namespace AnyType

def uint8 (v : AnyType) : uint8_t := v.setWidth 8
def uint16 (v : AnyType) : uint16_t := v.setWidth 16
def uint32 (v : AnyType) : uint32_t := v.setWidth 32

/-- Assignments to the narrower members leave the rest of the storage alone. -/
def set_uint8 (v : AnyType) (x : uint8_t) : AnyType :=
  (v &&& ~~~(0xFF#64)) ||| x.setWidth 64

def set_uint16 (v : AnyType) (x : uint16_t) : AnyType :=
  (v &&& ~~~(0xFFFF#64)) ||| x.setWidth 64

def set_uint32 (v : AnyType) (x : uint32_t) : AnyType :=
  (v &&& ~~~(0xFFFFFFFF#64)) ||| x.setWidth 64

/-- A member that is read back. -/
@[simp] theorem uint8_set_uint8 (v : AnyType) (x : uint8_t) :
    (v.set_uint8 x).setWidth 8 = x := by
  have hmask : (~~~0xFF#64).setWidth 8 = 0#8 := by decide
  simp only [set_uint8, BitVec.setWidth_or, BitVec.setWidth_and, hmask, BitVec.and_zero,
    BitVec.zero_or]
  exact BitVec.setWidth_setWidth_of_le x (by decide)

@[simp] theorem uint16_set_uint16 (v : AnyType) (x : uint16_t) :
    (v.set_uint16 x).setWidth 16 = x := by
  have hmask : (~~~0xFFFF#64).setWidth 16 = 0#16 := by decide
  simp only [set_uint16, BitVec.setWidth_or, BitVec.setWidth_and, hmask, BitVec.and_zero,
    BitVec.zero_or]
  exact BitVec.setWidth_setWidth_of_le x (by decide)

@[simp] theorem uint32_set_uint32 (v : AnyType) (x : uint32_t) :
    (v.set_uint32 x).setWidth 32 = x := by
  have hmask : (~~~0xFFFFFFFF#64).setWidth 32 = 0#32 := by decide
  simp only [set_uint32, BitVec.setWidth_or, BitVec.setWidth_and, hmask, BitVec.and_zero,
    BitVec.zero_or]
  exact BitVec.setWidth_setWidth_of_le x (by decide)

end AnyType

/-- `VariableTypeType`, kept as the code: requests carry any byte. -/
abbrev VariableTypeType := uint8_t

namespace VariableTypeType

def _sint : VariableTypeType := 0x00
def _uint : VariableTypeType := 0x10
def _float : VariableTypeType := 0x20
def _boolean : VariableTypeType := 0x30
def _undef : VariableTypeType := 0xF0

end VariableTypeType

abbrev VariableTypeSize := uint8_t

namespace VariableTypeSize

def _8 : VariableTypeSize := 0
def _16 : VariableTypeSize := 1
def _32 : VariableTypeSize := 2
def _64 : VariableTypeSize := 3
def _128 : VariableTypeSize := 4
def _256 : VariableTypeSize := 5
def _undef : VariableTypeSize := 0xF

end VariableTypeSize

abbrev VariableType := uint8_t

namespace VariableType

def sint8 : VariableType := 0x00
def sint16 : VariableType := 0x01
def sint32 : VariableType := 0x02
def sint64 : VariableType := 0x03
def uint8 : VariableType := 0x10
def uint16 : VariableType := 0x11
def uint32 : VariableType := 0x12
def uint64 : VariableType := 0x13
def float32 : VariableType := 0x22
def float64 : VariableType := 0x23
def boolean8 : VariableType := 0x30
def boolean16 : VariableType := 0x31
def boolean32 : VariableType := 0x32
def boolean64 : VariableType := 0x33
def boolean : VariableType := 0x3F
def unknown : VariableType := 0xFF

end VariableType

structure AnyValAndTypePair where
  val : AnyType
  valtype : VariableType

structure RuntimePublishedValue where
  id : uint16_t
  type : VariableType
  deriving DecidableEq, Repr

/-- A block of a memory request. The data and mask pointers point into the payload. -/
structure MemoryBlock8Bits where
  start_address : Nat
  length : uint16_t
  source_data : ByteBuffer
  mask : Option ByteBuffer

def MemoryBlock8Bits.length_char (self : MemoryBlock8Bits) : uint16_t := self.length / 1

/-- One byte touched in the target memory. -/
inductive Access where
  | read (addr : Nat)
  | write (addr : Nat)
  deriving DecidableEq, Repr

/-- The firmware's address space, with a record of the bytes the library touched
in it, latest first. The library's own buffers are not part of it. -/
structure Memory where
  bytes : Nat → uint8_t
  accesses : List Access

/-- User callbacks are firmware code: they may change any of its memory. -/
abbrev RpvReadCallback :=
  RuntimePublishedValue → Option LoopId → (Nat → uint8_t) → (Bool × AnyType) × (Nat → uint8_t)

abbrev RpvWriteCallback :=
  RuntimePublishedValue → AnyType → Option LoopId → (Nat → uint8_t) → Bool × (Nat → uint8_t)

/-- Given the subfunction, the request payload and the size of the response buffer,
returns the bytes put in the response buffer and the response length. -/
abbrev user_command_callback_t :=
  uint8_t → List uint8_t → uint16_t → (Nat → uint8_t) →
    (List uint8_t × uint16_t) × (Nat → uint8_t)

abbrev trigger_callback_t := (Nat → uint8_t) → (Nat → uint8_t)

namespace Memory

section

variable [Platform]

/-- One byte read through a pointer. -/
def load (self : Memory) (addr : Nat) : uint8_t × Memory :=
  (self.bytes (uintptr addr), { self with accesses := .read (uintptr addr) :: self.accesses })

/-- One byte written through a pointer. -/
def store (self : Memory) (addr : Nat) (value : uint8_t) : Memory where
  bytes := fun a => if a = uintptr addr then value else self.bytes a
  accesses := .write (uintptr addr) :: self.accesses

/-- `memcpy` out of the target memory. -/
def copy_out (self : Memory) (addr : Nat) : Nat → List uint8_t × Memory
  | 0 => ([], self)
  | length + 1 =>
    let (value, self) := self.load addr
    let (values, self) := self.copy_out (addr + 1) length
    (value :: values, self)

/-- `memcpy` into the target memory. -/
def copy_in (self : Memory) (addr : Nat) : List uint8_t → Memory
  | [] => self
  | value :: values => (self.store addr value).copy_in (addr + 1) values

end

/-- A callback returned, leaving the target memory as given. -/
def after_callback (self : Memory) (bytes : Nat → uint8_t) : Memory := { self with bytes }

end Memory

end scrutiny
