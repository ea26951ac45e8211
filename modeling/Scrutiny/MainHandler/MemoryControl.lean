import Scrutiny.MainHandler.State

open foundation

namespace scrutiny.MainHandler

open protocol

variable [Platform]

def block_touches_forbidden_region (m_config : Config) (block : MemoryBlock8Bits) : Bool :=
  touches_forbidden_region m_config block.start_address block.length_char.toNat

def block_touches_readonly_region (m_config : Config) (block : MemoryBlock8Bits) : Bool :=
  touches_readonly_region m_config block.start_address block.length_char.toNat

theorem block_touches_forbidden_region_eq (m_config : Config) (block : MemoryBlock8Bits) :
    block_touches_forbidden_region m_config block =
      touches_region m_config.forbidden_ranges block.start_address block.length.toNat := by
  simp [block_touches_forbidden_region, touches_forbidden_region_eq, MemoryBlock8Bits.length_char]

theorem block_touches_readonly_region_eq (m_config : Config) (block : MemoryBlock8Bits) :
    block_touches_readonly_region m_config block =
      touches_region m_config.readonly_ranges block.start_address block.length.toNat := by
  simp [block_touches_readonly_region, touches_readonly_region_eq, MemoryBlock8Bits.length_char]

-- The loops over the blocks and the entries of a request consume at least one byte
-- of it at each turn, so they are given one more turn than it has bytes.

/-- The loop of `Read`. A block is absent just when the request is invalid. -/
def read_blocks (m_config : Config) : Nat → ReadMemoryBlocksRequestParser → ResponseEncoderBase →
    Memory → (ResponseCode × Response) × Memory
  | 0, _, encoder, memory => ((.OK, encoder.m_response), memory)
  | fuel + 1, parser, encoder, memory =>
    if parser.m_finished then ((.OK, encoder.m_response), memory)
    else
      match parser.next with
      | (_, none) => ((.InvalidRequest, encoder.m_response), memory)
      | (parser, some block) =>
        if block_touches_forbidden_region m_config block then
          ((.Forbidden, encoder.m_response), memory)
        else
          let (encoder, memory) := ReadMemoryBlocksResponseEncoder.write encoder block memory
          if encoder.overflow then ((.Overflow, encoder.m_response), memory)
          else read_blocks m_config fuel parser encoder memory

def memory_read (self : MainHandler) (request : Request) (response : Response) (memory : Memory) :
    (ResponseCode × Response) × Memory :=
  let parser := ReadMemoryBlocksRequestParser.init request
  let encoder := ResponseEncoderBase.init response self.m_comm_handler.tx_buffer_size
  if parser.m_invalid then ((.InvalidRequest, encoder.m_response), memory)
  else if parser.m_required_tx_buffer_size > self.m_comm_handler.tx_buffer_size then
    ((.Overflow, encoder.m_response), memory)
  else read_blocks self.m_config (request.data_length.toNat + 1) parser encoder memory

/-- Sets the bits of the mask in the bytes from index `i` of a block on. -/
def write_masked (start_address : Nat) (source_data mask : ByteBuffer) :
    Nat → Nat → Memory → Memory
  | 0, _, memory => memory
  | n + 1, i, memory =>
    let (temp, memory) := memory.load (start_address + i)
    let temp := temp ||| (source_data i &&& mask i)
    let temp := temp &&& (source_data i ||| ~~~(mask i))
    write_masked start_address source_data mask n (i + 1) (memory.store (start_address + i) temp)

def write_block (block : MemoryBlock8Bits) (memory : Memory) : Memory :=
  match block.mask with
  | none =>
    memory.copy_in block.start_address (block.source_data.slice 0 block.length.toNat)
  | some mask =>
    write_masked block.start_address block.source_data mask block.length_char.toNat 0 memory

/-- The loop of `Write` and `WriteMasked`. -/
def write_blocks (m_config : Config) : Nat → WriteMemoryBlocksRequestParser →
    ResponseEncoderBase → Memory → (ResponseCode × Response) × Memory
  | 0, _, encoder, memory => ((.OK, encoder.m_response), memory)
  | fuel + 1, parser, encoder, memory =>
    if parser.m_finished then ((.OK, encoder.m_response), memory)
    else
      match parser.next with
      | (_, none) => ((.InvalidRequest, encoder.m_response), memory)
      | (parser, some block) =>
        if block_touches_forbidden_region m_config block then
          ((.Forbidden, encoder.m_response), memory)
        else if block_touches_readonly_region m_config block then
          ((.Forbidden, encoder.m_response), memory)
        else
          let encoder := WriteMemoryBlocksResponseEncoder.write encoder block
          write_blocks m_config fuel parser encoder (write_block block memory)

def memory_write (self : MainHandler) (masked : Bool) (request : Request) (response : Response)
    (memory : Memory) : (ResponseCode × Response) × Memory :=
  if self.m_config.memory_write_enable = false then ((.Forbidden, response), memory)
  else
    let parser := WriteMemoryBlocksRequestParser.init request masked
    let encoder := ResponseEncoderBase.init response self.m_comm_handler.tx_buffer_size
    if parser.m_invalid then ((.InvalidRequest, encoder.m_response), memory)
    else if parser.m_required_tx_buffer_size > self.m_comm_handler.tx_buffer_size then
      ((.Overflow, encoder.m_response), memory)
    else write_blocks self.m_config (request.data_length.toNat + 1) parser encoder memory

/-- The loop of `ReadRPV`. -/
def read_rpvs (m_config : Config) : Nat → ReadRPVRequestParser → ResponseEncoderBase → Memory →
    (ResponseCode × Response) × Memory
  | 0, _, encoder, memory => ((.OK, encoder.m_response), memory)
  | fuel + 1, parser, encoder, memory =>
    if parser.m_finished then ((.OK, encoder.m_response), memory)
    else
      match parser.next with
      | (_, none) => ((.InvalidRequest, encoder.m_response), memory)
      | (parser, some id) =>
        match get_rpv m_config id with
        | none => ((.FailureToProceed, encoder.m_response), memory)
        | some rpv =>
          let ((success, v), memory) := read_rpv m_config rpv none memory
          if success = false then ((.FailureToProceed, encoder.m_response), memory)
          else
            let encoder := ReadRPVResponseEncoder.write encoder rpv v
            if encoder.overflow then ((.Overflow, encoder.m_response), memory)
            else read_rpvs m_config fuel parser encoder memory

def memory_read_rpv (self : MainHandler) (request : Request) (response : Response)
    (memory : Memory) : (ResponseCode × Response) × Memory :=
  if !self.m_config.is_read_published_values_configured then
    ((.UnsupportedFeature, response), memory)
  else
    let parser := ReadRPVRequestParser.init request
    let encoder := ResponseEncoderBase.init response self.m_comm_handler.tx_buffer_size
    if parser.m_invalid then ((.InvalidRequest, encoder.m_response), memory)
    else read_rpvs self.m_config (request.data_length.toNat + 1) parser encoder memory

/-- The loop of `WriteRPV`. An entry of unsupported size is skipped. -/
def write_rpvs (m_config : Config) : Nat → WriteRPVRequestParser → AnyType → ResponseEncoderBase →
    Memory → (ResponseCode × Response) × Memory
  | 0, _, _, encoder, memory => ((.OK, encoder.m_response), memory)
  | fuel + 1, parser, v, encoder, memory =>
    if parser.m_finished then ((.OK, encoder.m_response), memory)
    else
      let (parser, entry) := parser.next m_config v
      if parser.m_invalid then ((.InvalidRequest, encoder.m_response), memory)
      else
        match entry with
        | none => write_rpvs m_config fuel parser v encoder memory
        | some (rpv, v) =>
          let (success, memory) := write_rpv m_config rpv v none memory
          if success = false then ((.FailureToProceed, encoder.m_response), memory)
          else
            let encoder := WriteRPVResponseEncoder.write encoder rpv
            if encoder.overflow then ((.Overflow, encoder.m_response), memory)
            else write_rpvs m_config fuel parser v encoder memory

def memory_write_rpv (self : MainHandler) (stack : Stack) (request : Request) (response : Response)
    (memory : Memory) : (ResponseCode × Response) × Memory :=
  if !self.m_config.is_write_published_values_configured then
    ((.UnsupportedFeature, response), memory)
  else
    let parser := WriteRPVRequestParser.init request
    let encoder := ResponseEncoderBase.init response self.m_comm_handler.tx_buffer_size
    if parser.m_invalid then ((.InvalidRequest, encoder.m_response), memory)
    else write_rpvs self.m_config (request.data_length.toNat + 1) parser stack.v encoder memory

def process_memory_control (self : MainHandler) (stack : Stack) (request : Request)
    (response : Response) (memory : Memory) : (ResponseCode × Response) × Memory :=
  match MemoryControl.Subfunction.cast request.subfunction_id with
  | some .Read => self.memory_read request response memory
  | some .Write => self.memory_write false request response memory
  | some .WriteMasked => self.memory_write true request response memory
  | some .ReadRPV => self.memory_read_rpv request response memory
  | some .WriteRPV => self.memory_write_rpv stack request response memory
  | none => ((.UnsupportedFeature, response), memory)

def process_user_command (self : MainHandler) (request : Request) (response : Response)
    (memory : Memory) : (ResponseCode × Response) × Memory :=
  match self.m_config.m_user_command_callback with
  | none => ((.UnsupportedFeature, response), memory)
  | some callback =>
    let ((data, response_data_length), bytes) := callback request.subfunction_id request.payload
      self.m_comm_handler.tx_buffer_size memory.bytes
    let response := response.put 0 data
    let memory := memory.after_callback bytes
    if response_data_length > self.m_comm_handler.tx_buffer_size then
      ((.Overflow, response), memory)
    else ((.OK, { response with data_length := response_data_length }), memory)

end scrutiny.MainHandler
