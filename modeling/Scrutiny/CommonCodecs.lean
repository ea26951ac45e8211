import Scrutiny.Tools

open foundation

namespace scrutiny.codecs

/-- The low byte of a value shifted right. -/
def byte_at {w : Nat} (value : BitVec w) (shift : Nat) : uint8_t := (value >>> shift).setWidth 8

-- The encoders return the bytes they put in the output buffer; their return value
-- in the source is the number of these.

def encode_8_bits_8bits (value : uint8_t) : List uint8_t := [value]

def encode_16_bits_big_endian_8bits (value : uint16_t) : List uint8_t :=
  [byte_at value 8, byte_at value 0]

@[simp] theorem length_encode_16_bits (value : uint16_t) :
    (encode_16_bits_big_endian_8bits value).length = 2 := rfl

def encode_32_bits_big_endian_8bits (value : uint32_t) : List uint8_t :=
  [byte_at value 24, byte_at value 16, byte_at value 8, byte_at value 0]

def encode_64_bits_big_endian_8bits (value : uint64_t) : List uint8_t :=
  [byte_at value 56, byte_at value 48, byte_at value 40, byte_at value 32,
    byte_at value 24, byte_at value 16, byte_at value 8, byte_at value 0]

def decode_16_bits_big_endian_8bits (buff : ByteBuffer) : uint16_t := buff 0 ++ buff 1

def decode_32_bits_big_endian_8bits (buff : ByteBuffer) : uint32_t :=
  buff 0 ++ buff 1 ++ buff 2 ++ buff 3

def decode_64_bits_big_endian_8bits (buff : ByteBuffer) : uint64_t :=
  buff 0 ++ buff 1 ++ buff 2 ++ buff 3 ++ buff 4 ++ buff 5 ++ buff 6 ++ buff 7

/-- A float travels as its bit pattern. -/
def decode_float_big_endian_8bits (buff : ByteBuffer) : uint32_t :=
  decode_32_bits_big_endian_8bits buff

section

variable [Platform]

def encode_address_big_endian_8bits (addr : Nat) : List uint8_t :=
  (List.range Platform.addr_size).map fun i =>
    BitVec.ofNat 8 (addr >>> (8 * (Platform.addr_size - 1 - i)))

def decode_address_big_endian_8bits (buf : ByteBuffer) : Nat :=
  (buf.slice 0 Platform.addr_size).foldl (fun addr byte => addr <<< 8 ||| byte.toNat) 0

@[simp] theorem length_encode_address (addr : Nat) :
    (encode_address_big_endian_8bits addr).length = Platform.addr_size := by
  simp [encode_address_big_endian_8bits]

/-- Selects the member of the union by the size of the value; an unsupported
size writes nothing. -/
def encode_anytype_big_endian (val : AnyType) (typesize : uint8_t) : List uint8_t :=
  if typesize = 1 then [val.uint8]
  else if typesize = 2 then encode_16_bits_big_endian_8bits val.uint16
  else if typesize = 4 then encode_32_bits_big_endian_8bits val.uint32
  else if typesize = 8 then encode_64_bits_big_endian_8bits val
  else []

def encode_anytype_big_endian_8bits (val : AnyType) (typesize : uint8_t) : List uint8_t :=
  encode_anytype_big_endian val typesize

def encode_anytype_big_endian_char (val : AnyType) (vartype : VariableType) : List uint8_t :=
  encode_anytype_big_endian val (tools.get_type_size_char vartype)

end

end scrutiny.codecs
