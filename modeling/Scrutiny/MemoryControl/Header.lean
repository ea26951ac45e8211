import Scrutiny.Protocol.Wire
import Scrutiny.MemoryControl.Blocks

open foundation

namespace scrutiny.protocol

variable [Platform]

/-- The address and the length that a block starts with on the wire. -/
@[ext] structure BlockHeader where
  start_address : Nat
  length : uint16_t
  in_space : start_address < address_space

/-- The header that is decoded at a position. -/
def header_at (buffer : ByteBuffer) (position : Nat) : BlockHeader where
  start_address := codecs.decode_address_big_endian_8bits (buffer.shift position)
  length := codecs.decode_16_bits_big_endian_8bits (buffer.shift (position + Platform.addr_size))
  in_space := codecs.decode_address_shift_lt buffer position

namespace BlockHeader

def encode (self : BlockHeader) : List uint8_t :=
  codecs.encode_address_big_endian_8bits self.start_address ++
    codecs.encode_16_bits_big_endian_8bits self.length

/-- The bytes that the block takes in a response, with its header. -/
def size (self : BlockHeader) : Nat := block_header_size + self.length.toNat

@[simp] theorem length_encode (self : BlockHeader) : self.encode.length = block_header_size := by
  simp [encode, block_header_size]

/-- The bytes at a position are those of a header just when it is decoded there. -/
theorem slice_eq_encode_iff (buffer : ByteBuffer) (position : Nat) (header : BlockHeader) :
    buffer.slice position block_header_size = header.encode ↔
      header_at buffer position = header := by
  have haddress := codecs.slice_eq_encode_address_iff (buffer.shift position) header.in_space
  have hlength := codecs.slice_eq_encode_16_iff (buffer.shift (position + Platform.addr_size))
    header.length
  rw [Buffer.slice_shift, Nat.add_zero] at haddress hlength
  rw [block_header_size, Buffer.slice_add, encode, BlockHeader.ext_iff]
  constructor
  · intro h
    obtain ⟨hfirst, hsecond⟩ := List.append_inj h (by simp)
    exact ⟨haddress.mp hfirst, hlength.mp hsecond⟩
  · rintro ⟨hfirst, hsecond⟩
    rw [haddress.mpr hfirst, hlength.mpr hsecond]

theorem slice_header (buffer : ByteBuffer) (position : Nat) :
    buffer.slice position block_header_size = (header_at buffer position).encode :=
  (slice_eq_encode_iff buffer position _).mpr rfl

/-- Bytes that start with a header are decoded to it. -/
theorem header_at_of_slice {buffer : ByteBuffer} {position length : Nat} {header : BlockHeader}
    {rest : List uint8_t} (hslice : buffer.slice position length = header.encode ++ rest) :
    header_at buffer position = header := by
  have hlength : length = block_header_size + rest.length := by
    have hlengths := congrArg List.length hslice
    rwa [Buffer.length_slice, List.length_append, length_encode] at hlengths
  rw [hlength, Buffer.slice_add] at hslice
  exact (slice_eq_encode_iff buffer position header).mp (List.append_inj_left hslice (by simp))

end BlockHeader

end scrutiny.protocol
