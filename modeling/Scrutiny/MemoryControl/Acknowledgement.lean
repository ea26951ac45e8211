import Scrutiny.MemoryControl.Write
import Scrutiny.Host

open foundation

namespace scrutiny

open protocol protocol.MemoryControl

namespace MainHandler

section

variable [Platform]

/-- The acknowledgement of a sequence of written blocks. -/
def acknowledgement (blocks : List MemoryBlock8Bits) : List uint8_t :=
  blocks.flatMap encode_block_header

theorem length_acknowledgement (blocks : List MemoryBlock8Bits) :
    (acknowledgement blocks).length = blocks.length * block_header_size := by
  induction blocks with
  | nil => simp [acknowledgement]
  | cons block blocks ih =>
    rw [acknowledgement, List.flatMap_cons, List.length_append, length_encode_block_header,
      List.length_cons, Nat.succ_mul, Nat.add_comm]
    exact congrArg (· + block_header_size) ih

theorem wellFormed_write {encoder : ResponseEncoderBase} (hwf : encoder.WellFormed)
    (block : MemoryBlock8Bits) :
    (WriteMemoryBlocksResponseEncoder.write encoder block).WellFormed := by
  unfold WriteMemoryBlocksResponseEncoder.write
  split
  · exact ⟨hwf.length_eq, hwf.cursor_le⟩
  · rename_i hfits
    exact (ResponseEncoderBase.append_of_fits hwf
      (by rw [length_encode_block_header]; exact Nat.le_of_not_lt hfits)).1

theorem size_limit_write (encoder : ResponseEncoderBase) (block : MemoryBlock8Bits) :
    (WriteMemoryBlocksResponseEncoder.write encoder block).m_size_limit =
      encoder.m_size_limit := by
  unfold WriteMemoryBlocksResponseEncoder.write
  split <;> rfl

theorem payload_length_le {encoder : ResponseEncoderBase} (hwf : encoder.WellFormed)
    (blocks : List MemoryBlock8Bits) :
    (blocks.foldl WriteMemoryBlocksResponseEncoder.write encoder).m_response.payload.length ≤
      encoder.m_size_limit.toNat := by
  induction blocks generalizing encoder with
  | nil =>
    have hcursor := hwf.cursor_le
    simp only [List.foldl_nil, Response.payload, Buffer.length_slice, hwf.length_eq]
    exact hcursor
  | cons block blocks ih =>
    have hrest := ih (wellFormed_write hwf block)
    rwa [size_limit_write] at hrest

/-- Blocks whose acknowledgement fits are all acknowledged. -/
theorem payload_of_fits {encoder : ResponseEncoderBase} (hwf : encoder.WellFormed)
    {blocks : List MemoryBlock8Bits}
    (hfits : blocks.length * block_header_size ≤ encoder.remaining) :
    (blocks.foldl WriteMemoryBlocksResponseEncoder.write encoder).m_response.payload =
      encoder.m_response.payload ++ acknowledgement blocks := by
  induction blocks generalizing encoder with
  | nil => simp [acknowledgement]
  | cons block blocks ih =>
    rw [List.length_cons, Nat.succ_mul] at hfits
    have hblock : (encode_block_header block).length ≤ encoder.remaining := by
      rw [length_encode_block_header]
      omega
    obtain ⟨hwf', hpayload, hremaining⟩ := ResponseEncoderBase.append_of_fits hwf hblock
    have hwrite : WriteMemoryBlocksResponseEncoder.write encoder block =
        encoder.append (encode_block_header block) := by
      rw [length_encode_block_header] at hblock
      rw [WriteMemoryBlocksResponseEncoder.write, if_neg (Nat.not_lt.mpr hblock)]
    rw [length_encode_block_header] at hremaining
    rw [List.foldl_cons, hwrite, ih hwf' (by omega), hpayload, List.append_assoc]
    rfl

/-- A write answered OK is acknowledged completely just when the acknowledgement of
all its blocks fits in the transmission buffer: the size required of it leaves the last
block out. -/
theorem write_acknowledged_iff {request : Request} {masked : Bool}
    (hwrite : Subfunction.cast request.subfunction_id = some (write_subfunction masked))
    (self : MainHandler) (stack : Stack) (response : Response) (memory : Memory)
    (hok : (self.process_memory_control stack request response memory).1.1 = .OK) :
    (self.process_memory_control stack request response memory).1.2.payload =
        acknowledgement (WriteMemoryBlocksRequestParser.request_blocks request masked) ↔
      (WriteMemoryBlocksRequestParser.request_blocks request masked).length * block_header_size ≤
        self.m_comm_handler.tx_buffer_size.toNat := by
  rw [process_memory_control_write hwrite] at hok ⊢
  obtain ⟨haccepts, hpermitted⟩ := (memory_write_ok_iff self masked request response memory).mp hok
  have hwritten : self.written_blocks masked request =
      WriteMemoryBlocksRequestParser.request_blocks request masked := by
    rw [written_blocks, if_pos haccepts, List.takeWhile_eq_self_iff]
    exact hpermitted
  have hwf := ResponseEncoderBase.wellFormed_init response self.m_comm_handler.tx_buffer_size
  rw [memory_write_of_accepts haccepts, hwritten]
  constructor
  · intro hpayload
    have hlength := payload_length_le hwf
      (WriteMemoryBlocksRequestParser.request_blocks request masked)
    rwa [hpayload, length_acknowledgement] at hlength
  · intro hfits
    have hremaining := ResponseEncoderBase.remaining_init response
      self.m_comm_handler.tx_buffer_size
    have hpayload := payload_of_fits hwf (hremaining ▸ hfits)
    rw [hpayload, ResponseEncoderBase.payload_init, List.nil_append]

end

section

attribute [local instance] host.platform

/-- The smallest transmission buffer. -/
def smallest : MainHandler := (host.initialized 32 [] host.none_forbidden).main

/-- The write of one byte to each of some addresses. -/
def write_bytes (count : Nat) : Request :=
  host.memory_request 2
    ((List.range count).flatMap fun i => host.block_header (0x1000 + i) 1 ++ [0xAA])

theorem write_acknowledged_partly :
    (smallest.process_memory_control host.stack (write_bytes 4) host.response
      ⟨fun _ => 0, []⟩).1.1 = .OK ∧
    (smallest.process_memory_control host.stack (write_bytes 4) host.response
      ⟨fun _ => 0, []⟩).1.2.payload ≠
        acknowledgement (WriteMemoryBlocksRequestParser.request_blocks (write_bytes 4) false) := by
  decide +kernel

theorem write_acknowledged_in_full :
    (smallest.process_memory_control host.stack (write_bytes 3) host.response
      ⟨fun _ => 0, []⟩).1.2.payload =
        acknowledgement (WriteMemoryBlocksRequestParser.request_blocks (write_bytes 3) false) :=
  (write_acknowledged_iff (by decide +kernel) smallest host.stack host.response ⟨fun _ => 0, []⟩
    (by decide +kernel)).mpr (by decide +kernel)

end

end MainHandler

end scrutiny
