import Scrutiny.Protocol.Definitions
import Scrutiny.CommonCodecs
import Scrutiny.Config

open foundation

namespace scrutiny.protocol

/-- The check made by the encoders of responses that do not grow with a request. -/
def exceeds_tx_buffer (datalen : Nat) (response : Response) : Bool :=
  decide (datalen > MINIMUM_TX_BUFFER_SIZE.toNat) &&
    decide (datalen > response.data_max_length.toNat)

/-- Puts bytes in the payload. -/
def Response.put (self : Response) (position : Nat) (bytes : List uint8_t) : Response :=
  { self with data := self.data.write position bytes }

def Response.set_length (self : Response) (data_length : Nat) : Response :=
  { self with data_length := BitVec.ofNat 16 data_length }

@[simp] theorem Response.put_data_max_length (self : Response) (position : Nat)
    (bytes : List uint8_t) : (self.put position bytes).data_max_length = self.data_max_length := rfl

@[simp] theorem Response.set_length_data (self : Response) (data_length : Nat) :
    (self.set_length data_length).data = self.data := rfl

section Parsers

variable [Platform]

/-- The size of an address and a length in a memory request. -/
def block_header_size : Nat := Platform.addr_size + 2

structure ReadMemoryBlocksRequestParser where
  m_buffer : ByteBuffer
  m_bytes_read : uint16_t
  m_request_datasize : uint16_t
  m_required_tx_buffer_size : uint16_t
  m_finished : Bool
  m_invalid : Bool

namespace ReadMemoryBlocksRequestParser

/-- The position of the length of the block to come, after its address. -/
def length_position (self : ReadMemoryBlocksRequestParser) : uint16_t :=
  self.m_bytes_read + BitVec.ofNat 16 Platform.addr_size

def next_address (self : ReadMemoryBlocksRequestParser) : Nat :=
  codecs.decode_address_big_endian_8bits (self.m_buffer.shift self.m_bytes_read.toNat)

def next_length (self : ReadMemoryBlocksRequestParser) : uint16_t :=
  codecs.decode_16_bits_big_endian_8bits (self.m_buffer.shift self.length_position.toNat)

/-- The block is absent where the source leaves its output parameter alone. The
positions are the values that `m_bytes_read` goes through. -/
def next (self : ReadMemoryBlocksRequestParser) :
    ReadMemoryBlocksRequestParser × Option MemoryBlock8Bits :=
  if self.m_finished || self.m_invalid then (self, none)
  else if block_header_size > (self.m_request_datasize - self.m_bytes_read).toNat then
    ({ self with m_finished := true, m_invalid := true }, none)
  else if block_header_size + self.next_length.toNat >
      (MAXIMUM_TX_BUFFER_SIZE - self.m_required_tx_buffer_size).toNat then
    ({ self with
      m_bytes_read := self.length_position
      m_invalid := true
      m_finished := true }, none)
  else
    let end_position := self.length_position + 2
    ({ self with
      m_bytes_read := end_position
      m_finished := decide (end_position = self.m_request_datasize) },
      some {
        start_address := self.next_address
        length := self.next_length
        source_data := self.m_buffer
        mask := none })

def set_required (self : ReadMemoryBlocksRequestParser) (required : uint16_t) :
    ReadMemoryBlocksRequestParser :=
  { self with m_required_tx_buffer_size := required }

/-- The traversal for validation; each block takes at least one byte of the fuel. -/
def traverse : Nat → ReadMemoryBlocksRequestParser → ReadMemoryBlocksRequestParser
  | 0, self => self
  | fuel + 1, self =>
    match self.next with
    | (self, none) => self
    | (self, some block) =>
      if self.m_invalid || self.m_finished then self
      else
        traverse fuel (self.set_required (self.m_required_tx_buffer_size +
          BitVec.ofNat 16 (block_header_size + block.length.toNat)))

def init (request : Request) : ReadMemoryBlocksRequestParser :=
  let self := traverse (request.data_length.toNat + 1) {
    m_buffer := request.data
    m_bytes_read := 0
    m_request_datasize := request.data_length
    m_required_tx_buffer_size := 0
    m_finished := false
    m_invalid := false }
  { self with m_bytes_read := 0, m_finished := false }

end ReadMemoryBlocksRequestParser

structure WriteMemoryBlocksRequestParser where
  m_buffer : ByteBuffer
  m_bytes_read : uint16_t
  m_size_limit : uint16_t
  m_required_tx_buffer_size : uint16_t
  m_finished : Bool
  m_invalid : Bool
  m_masked_write : Bool

namespace WriteMemoryBlocksRequestParser

/-- The position of the length of the block to come, after its address. -/
def length_position (self : WriteMemoryBlocksRequestParser) : uint16_t :=
  self.m_bytes_read + BitVec.ofNat 16 Platform.addr_size

/-- The position of its data. -/
def data_position (self : WriteMemoryBlocksRequestParser) : uint16_t := self.length_position + 2

def next_address (self : WriteMemoryBlocksRequestParser) : Nat :=
  codecs.decode_address_big_endian_8bits (self.m_buffer.shift self.m_bytes_read.toNat)

def next_length (self : WriteMemoryBlocksRequestParser) : uint16_t :=
  codecs.decode_16_bits_big_endian_8bits (self.m_buffer.shift self.length_position.toNat)

/-- What remains of the request at its data, halved as an `int`. -/
def half_remaining (self : WriteMemoryBlocksRequestParser) : uint16_t :=
  ((self.m_size_limit.setWidth 32 - self.data_position.setWidth 32).sshiftRight 1).setWidth 16

/-- The block is absent where it is not filled in completely. The positions are the
values that `m_bytes_read` goes through. -/
def next (self : WriteMemoryBlocksRequestParser) :
    WriteMemoryBlocksRequestParser × Option MemoryBlock8Bits :=
  if self.m_finished || self.m_invalid then (self, none)
  else if block_header_size > (self.m_size_limit - self.m_bytes_read).toNat then
    ({ self with m_finished := true, m_invalid := true }, none)
  else if self.next_length > self.m_size_limit - self.data_position ∨
      (self.m_masked_write ∧ self.next_length > self.half_remaining) then
    ({ self with
      m_bytes_read := self.data_position
      m_invalid := true
      m_finished := true }, none)
  else
    let mask_position := self.data_position + self.next_length
    if mask_position > self.m_size_limit then
      ({ self with m_bytes_read := mask_position, m_invalid := true }, none)
    else
      let end_position :=
        if self.m_masked_write then mask_position + self.next_length else mask_position
      ({ self with
        m_bytes_read := end_position
        m_finished := decide (end_position = self.m_size_limit) },
        some {
          start_address := self.next_address
          length := self.next_length
          source_data := self.m_buffer.shift self.data_position.toNat
          mask :=
            if self.m_masked_write then some (self.m_buffer.shift mask_position.toNat) else none })

def set_required (self : WriteMemoryBlocksRequestParser) (required : uint16_t) :
    WriteMemoryBlocksRequestParser :=
  { self with m_required_tx_buffer_size := required }

def traverse : Nat → WriteMemoryBlocksRequestParser → WriteMemoryBlocksRequestParser
  | 0, self => self
  | fuel + 1, self =>
    match self.next with
    | (self, none) => self
    | (self, some _) =>
      if self.m_invalid || self.m_finished then self
      else
        traverse fuel (self.set_required (self.m_required_tx_buffer_size +
          BitVec.ofNat 16 block_header_size))

def init (request : Request) (masked_write : Bool) : WriteMemoryBlocksRequestParser :=
  let self := traverse (request.data_length.toNat + 1) {
    m_buffer := request.data
    m_bytes_read := 0
    m_size_limit := request.data_length
    m_required_tx_buffer_size := 0
    m_finished := false
    m_invalid := false
    m_masked_write := masked_write }
  { self with m_bytes_read := 0, m_finished := false }

end WriteMemoryBlocksRequestParser

structure ReadRPVRequestParser where
  m_buffer : ByteBuffer
  m_bytes_read : uint16_t
  m_request_len : uint16_t
  m_finished : Bool
  m_invalid : Bool

namespace ReadRPVRequestParser

def init (request : Request) : ReadRPVRequestParser where
  m_buffer := request.data
  m_bytes_read := 0
  m_request_len := request.data_length
  m_finished := false
  m_invalid := request.data_length &&& 1 != 0

/-- The identifier is present when the source returns true. -/
def next (self : ReadRPVRequestParser) : ReadRPVRequestParser × Option uint16_t :=
  if self.m_finished || self.m_invalid then (self, none)
  else if self.m_request_len.toNat < self.m_bytes_read.toNat + 2 then
    ({ self with m_invalid := true }, none)
  else
    let id := codecs.decode_16_bits_big_endian_8bits (self.m_buffer.shift self.m_bytes_read.toNat)
    let self := { self with m_bytes_read := self.m_bytes_read + 2 }
    ({ self with m_finished := decide (self.m_bytes_read = self.m_request_len) }, some id)

end ReadRPVRequestParser

structure WriteRPVRequestParser where
  m_buffer : ByteBuffer
  m_bytes_read : uint16_t
  m_request_len : uint16_t
  m_finished : Bool
  m_invalid : Bool

namespace WriteRPVRequestParser

def init (request : Request) : WriteRPVRequestParser where
  m_buffer := request.data
  m_bytes_read := 0
  m_request_len := request.data_length
  m_finished := false
  m_invalid := false

/-- The value read from the payload into the union, for a supported size. -/
def decode_value (buffer : ByteBuffer) (typesize : uint8_t) (v : AnyType) : Option AnyType :=
  if typesize = 1 then some (v.set_uint8 (buffer 0))
  else if typesize = 2 then some (v.set_uint16 (codecs.decode_16_bits_big_endian_8bits buffer))
  else if typesize = 4 then some (v.set_uint32 (codecs.decode_32_bits_big_endian_8bits buffer))
  else if typesize = 8 then some (codecs.decode_64_bits_big_endian_8bits buffer)
  else none

/-- The entry is present when the source returns true. The union keeps what a
narrower value does not overwrite. -/
def next (self : WriteRPVRequestParser) (m_config : Config) (v : AnyType) :
    WriteRPVRequestParser × Option (RuntimePublishedValue × AnyType) :=
  if self.m_finished || self.m_invalid then (self, none)
  else if 2 > (self.m_request_len - self.m_bytes_read).toNat then
    ({ self with m_invalid := true }, none)
  else
    let id := codecs.decode_16_bits_big_endian_8bits (self.m_buffer.shift self.m_bytes_read.toNat)
    let self := { self with m_bytes_read := self.m_bytes_read + 2 }
    match MainHandler.get_rpv m_config id with
    | none => ({ self with m_invalid := true }, none)
    | some rpv =>
      let typesize := tools.get_type_size_8bits rpv.type
      if typesize.toNat > (self.m_request_len - self.m_bytes_read).toNat then
        ({ self with m_invalid := true }, none)
      else
        let value := decode_value (self.m_buffer.shift self.m_bytes_read.toNat) typesize v
        let self := { self with m_bytes_read := self.m_bytes_read + typesize.setWidth 16 }
        ({ self with m_finished := decide (self.m_bytes_read = self.m_request_len) },
          value.map fun v => (rpv, v))

end WriteRPVRequestParser

end Parsers

/-- The buffer of the encoder is the data of its response. -/
structure ResponseEncoderBase where
  m_response : Response
  m_cursor : uint16_t
  m_size_limit : uint16_t
  m_overflow : Bool

namespace ResponseEncoderBase

def init (response : Response) (max_size : uint16_t) : ResponseEncoderBase where
  m_response := { response with data_length := 0 }
  m_cursor := 0
  m_size_limit := max_size
  m_overflow := false

def overflow (self : ResponseEncoderBase) : Bool := self.m_overflow

def remaining (self : ResponseEncoderBase) : Nat := (self.m_size_limit - self.m_cursor).toNat

/-- Puts bytes at the cursor and makes the payload end after them. -/
def append (self : ResponseEncoderBase) (bytes : List uint8_t) : ResponseEncoderBase :=
  let cursor := self.m_cursor + BitVec.ofNat 16 bytes.length
  { self with
    m_cursor := cursor
    m_response := { self.m_response.put self.m_cursor.toNat bytes with data_length := cursor } }

@[simp] theorem overflow_append (self : ResponseEncoderBase) (bytes : List uint8_t) :
    (self.append bytes).overflow = self.overflow := rfl

/-- The response ends at the cursor, and there is room for what was put in it. -/
structure WellFormed (encoder : ResponseEncoderBase) : Prop where
  length_eq : encoder.m_response.data_length = encoder.m_cursor
  cursor_le : encoder.m_cursor ≤ encoder.m_size_limit

theorem wellFormed_init (response : Response) (max_size : uint16_t) :
    WellFormed (init response max_size) :=
  ⟨rfl, Nat.zero_le _⟩

theorem remaining_init (response : Response) (max_size : uint16_t) :
    (init response max_size).remaining = max_size.toNat := by
  simp [remaining, init]

theorem payload_init (response : Response) (max_size : uint16_t) :
    (init response max_size).m_response.payload = [] := by
  simp [init, Response.payload]

/-- Bytes that fit are added to the payload. -/
theorem append_of_fits {self : ResponseEncoderBase} (hwf : WellFormed self)
    {bytes : List uint8_t} (hfits : bytes.length ≤ self.remaining) :
    WellFormed (self.append bytes) ∧
      (self.append bytes).m_response.payload = self.m_response.payload ++ bytes ∧
      (self.append bytes).remaining = self.remaining - bytes.length := by
  have hcursor : self.m_cursor.toNat ≤ self.m_size_limit.toNat := hwf.cursor_le
  have hlimit := self.m_size_limit.isLt
  have hremaining : self.remaining = self.m_size_limit.toNat - self.m_cursor.toNat := by
    unfold remaining
    bv_omega
  have hnew : (self.m_cursor + BitVec.ofNat 16 bytes.length).toNat =
      self.m_cursor.toNat + bytes.length := by
    bv_omega
  refine ⟨⟨rfl, ?_⟩, ?_, ?_⟩
  · change (self.m_cursor + BitVec.ofNat 16 bytes.length).toNat ≤ self.m_size_limit.toNat
    omega
  · simp only [append, Response.put, Response.payload]
    rw [hnew, hwf.length_eq]
    simpa using Buffer.slice_write_append self.m_response.data 0 self.m_cursor.toNat bytes
  · simp only [append, remaining]
    bv_omega

end ResponseEncoderBase

section Encoders

variable [Platform]

/-- The address and the length of a block. -/
def encode_block_header (block : MemoryBlock8Bits) : List uint8_t :=
  codecs.encode_address_big_endian_8bits block.start_address ++
    codecs.encode_16_bits_big_endian_8bits block.length

def ReadMemoryBlocksResponseEncoder.write (self : ResponseEncoderBase) (block : MemoryBlock8Bits)
    (memory : Memory) : ResponseEncoderBase × Memory :=
  if block.length.toNat > MAXIMUM_TX_BUFFER_SIZE.toNat - block_header_size then
    ({ self with m_overflow := true }, memory)
  else if block_header_size + block.length.toNat > self.remaining then
    ({ self with m_overflow := true }, memory)
  else
    let (bytes, memory) := memory.copy_out block.start_address block.length.toNat
    (self.append (encode_block_header block ++ bytes), memory)

def WriteMemoryBlocksResponseEncoder.write (self : ResponseEncoderBase)
    (block : MemoryBlock8Bits) : ResponseEncoderBase :=
  if block_header_size > self.remaining then { self with m_overflow := true }
  else self.append (encode_block_header block)

def GetRPVDefinitionResponseEncoder.write (self : ResponseEncoderBase)
    (rpv : RuntimePublishedValue) : ResponseEncoderBase :=
  if 2 + 1 > self.remaining then { self with m_overflow := true }
  else
    let vtype :=
      if rpv.type = VariableType.boolean then tools.get_platform_boolean else rpv.type
    self.append (codecs.encode_16_bits_big_endian_8bits rpv.id ++ codecs.encode_8_bits_8bits vtype)

def ReadRPVResponseEncoder.write (self : ResponseEncoderBase) (rpv : RuntimePublishedValue)
    (v : AnyType) : ResponseEncoderBase :=
  let typesize := tools.get_type_size_8bits rpv.type
  if 2 + typesize.toNat > self.remaining then { self with m_overflow := true }
  else if typesize = 1 ∨ typesize = 2 ∨ typesize = 4 ∨ typesize = 8 then
    self.append (codecs.encode_16_bits_big_endian_8bits rpv.id ++
      codecs.encode_anytype_big_endian_8bits v typesize)
  else self

def WriteRPVResponseEncoder.write (self : ResponseEncoderBase) (rpv : RuntimePublishedValue) :
    ResponseEncoderBase :=
  let typesize := tools.get_type_size_8bits rpv.type
  if 2 + 1 > self.remaining then { self with m_overflow := true }
  else
    self.append (codecs.encode_16_bits_big_endian_8bits rpv.id ++
      codecs.encode_8_bits_8bits typesize)

end Encoders

end scrutiny.protocol
