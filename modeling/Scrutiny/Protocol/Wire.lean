import Scrutiny.CommonCodecs
import Scrutiny.Foundation.BigEndian

open foundation

namespace scrutiny.codecs

theorem toNat_byte_at {w : Nat} (value : BitVec w) (shift : Nat) :
    byte_at value shift = BitVec.ofNat 8 (value.toNat / 2 ^ shift) := by
  apply BitVec.eq_of_toNat_eq
  rw [byte_at, BitVec.toNat_setWidth, BitVec.toNat_ushiftRight, Nat.shiftRight_eq_div_pow,
    BitVec.toNat_ofNat]

theorem encode_16_bits_eq (value : uint16_t) :
    encode_16_bits_big_endian_8bits value = big_endian 2 value.toNat := by
  simp [encode_16_bits_big_endian_8bits, big_endian, toNat_byte_at]

theorem encode_32_bits_eq (value : uint32_t) :
    encode_32_bits_big_endian_8bits value = big_endian 4 value.toNat := by
  simp [encode_32_bits_big_endian_8bits, big_endian, toNat_byte_at, Nat.div_div_eq_div_mul]

theorem of_big_endian_slice_succ (buff : ByteBuffer) (length : Nat) :
    of_big_endian (buff.slice 0 (length + 1)) =
      of_big_endian (buff.slice 0 length) * 256 + (buff length).toNat := by
  rw [Buffer.slice_add, Nat.zero_add]
  exact of_big_endian_append _ _

theorem decode_16_bits_toNat (buff : ByteBuffer) :
    (decode_16_bits_big_endian_8bits buff).toNat = of_big_endian (buff.slice 0 2) := by
  simp only [decode_16_bits_big_endian_8bits, toNat_append_byte, of_big_endian_slice_succ]
  simp [of_big_endian]

theorem decode_32_bits_toNat (buff : ByteBuffer) :
    (decode_32_bits_big_endian_8bits buff).toNat = of_big_endian (buff.slice 0 4) := by
  simp only [decode_32_bits_big_endian_8bits, toNat_append_byte, of_big_endian_slice_succ]
  simp [of_big_endian]

/-- Bytes are the encoding of a value just when they are decoded to it. -/
theorem slice_eq_encode_16_iff (buff : ByteBuffer) (value : uint16_t) :
    buff.slice 0 2 = encode_16_bits_big_endian_8bits value ↔
      decode_16_bits_big_endian_8bits buff = value := by
  rw [encode_16_bits_eq, eq_big_endian_iff (Buffer.length_slice buff 0 2) value.isLt,
    ← decode_16_bits_toNat, BitVec.toNat_inj]

theorem slice_eq_encode_32_iff (buff : ByteBuffer) (value : uint32_t) :
    buff.slice 0 4 = encode_32_bits_big_endian_8bits value ↔
      decode_32_bits_big_endian_8bits buff = value := by
  rw [encode_32_bits_eq, eq_big_endian_iff (Buffer.length_slice buff 0 4) value.isLt,
    ← decode_32_bits_toNat, BitVec.toNat_inj]

section

variable [Platform]

theorem encode_address_eq (addr : Nat) :
    encode_address_big_endian_8bits addr = big_endian Platform.addr_size addr := by
  rw [encode_address_big_endian_8bits]
  generalize Platform.addr_size = size
  induction size generalizing addr with
  | zero => rfl
  | succ size ih =>
    rw [List.range_succ, List.map_append, List.map_singleton, big_endian, ← ih (addr / 256)]
    congr 1
    · apply List.map_congr_left
      intro i hi
      have hlt : i < size := List.mem_range.mp hi
      have hshift : 8 * (size + 1 - 1 - i) = 8 + 8 * (size - 1 - i) := by omega
      rw [hshift, Nat.shiftRight_add, Nat.shiftRight_eq_div_pow addr 8]
    · simp

theorem decode_address_eq (buf : ByteBuffer) :
    decode_address_big_endian_8bits buf = of_big_endian (buf.slice 0 Platform.addr_size) := by
  rw [decode_address_big_endian_8bits]
  generalize Platform.addr_size = size
  induction size with
  | zero => rfl
  | succ size ih =>
    have hbyte : (buf size).toNat < 2 ^ 8 := (buf size).isLt
    rw [of_big_endian_slice_succ, ← ih, Buffer.slice_add, List.foldl_append, Nat.zero_add]
    change _ <<< 8 ||| (buf size).toNat = _
    rw [← Nat.shiftLeft_add_eq_or_of_lt hbyte, Nat.shiftLeft_eq]

theorem decode_address_lt (buf : ByteBuffer) :
    decode_address_big_endian_8bits buf < address_space := by
  have hlt := of_big_endian_lt (buf.slice 0 Platform.addr_size)
  rw [Buffer.length_slice] at hlt
  rw [decode_address_eq, address_space, Nat.pow_mul]
  exact hlt

theorem decode_address_shift_lt (buf : ByteBuffer) (position : Nat) :
    decode_address_big_endian_8bits (buf.shift position) < address_space :=
  decode_address_lt (buf.shift position)

theorem slice_eq_encode_address_iff (buf : ByteBuffer) {addr : Nat} (haddr : addr < address_space) :
    buf.slice 0 Platform.addr_size = encode_address_big_endian_8bits addr ↔
      decode_address_big_endian_8bits buf = addr := by
  rw [address_space, Nat.pow_mul] at haddr
  rw [encode_address_eq, eq_big_endian_iff (Buffer.length_slice buf 0 _) haddr, decode_address_eq]

end

/-- The sizes of value that are encoded. -/
def encodable (typesize : uint8_t) : Prop :=
  typesize = 1 ∨ typesize = 2 ∨ typesize = 4 ∨ typesize = 8

instance (typesize : uint8_t) : Decidable (encodable typesize) :=
  inferInstanceAs (Decidable (_ ∨ _))

theorem length_encode_anytype (val : AnyType) {typesize : uint8_t} (h : encodable typesize) :
    (encode_anytype_big_endian val typesize).length = typesize.toNat := by
  rcases h with rfl | rfl | rfl | rfl <;> rfl

end scrutiny.codecs
