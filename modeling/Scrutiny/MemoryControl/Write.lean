import Scrutiny.MemoryControl.Blocks
import Scrutiny.Foundation.MaskedStore

open foundation

namespace scrutiny.MainHandler

open protocol protocol.MemoryControl

variable [Platform]

/-- The permission checks made on a block before it is written. -/
def permits_write (m_config : Config) (block : MemoryBlock8Bits) : Bool :=
  !block_touches_forbidden_region m_config block && !block_touches_readonly_region m_config block

/-- The checks made on a write request as a whole, before its first block. -/
def accepts_write (self : MainHandler) (masked : Bool) (request : Request) : Bool :=
  let parser := WriteMemoryBlocksRequestParser.init request masked
  self.m_config.memory_write_enable && !parser.m_invalid &&
    decide (parser.m_required_tx_buffer_size ≤ self.m_comm_handler.tx_buffer_size)

/-- The blocks written before the first that is refused. -/
def written_blocks (self : MainHandler) (masked : Bool) (request : Request) :
    List MemoryBlock8Bits :=
  if self.accepts_write masked request then
    (WriteMemoryBlocksRequestParser.request_blocks request masked).takeWhile
      (permits_write self.m_config)
  else []

def write_all (blocks : List MemoryBlock8Bits) (memory : Memory) : Memory :=
  blocks.foldl (fun memory block => write_block block memory) memory

theorem write_blocks_finished {m_config : Config} {parser : WriteMemoryBlocksRequestParser}
    (hfin : parser.m_finished = true) (fuel : Nat) (encoder : ResponseEncoderBase)
    (memory : Memory) :
    write_blocks m_config fuel parser encoder memory = ((.OK, encoder.m_response), memory) := by
  cases fuel with
  | zero => rfl
  | succ fuel => simp only [write_blocks, hfin, if_true]

/-- One turn of the loop on a block of the request. -/
theorem write_blocks_next {m_config : Config} {parser after : WriteMemoryBlocksRequestParser}
    {block : MemoryBlock8Bits} (hnext : parser.next = (after, some block)) (fuel : Nat)
    (encoder : ResponseEncoderBase) (memory : Memory) :
    write_blocks m_config (fuel + 1) parser encoder memory =
      if permits_write m_config block then
        write_blocks m_config fuel after (WriteMemoryBlocksResponseEncoder.write encoder block)
          (write_block block memory)
      else ((.Forbidden, encoder.m_response), memory) := by
  have hopen : parser.m_finished = false := by
    cases hfin : parser.m_finished with
    | false => rfl
    | true => simp [WriteMemoryBlocksRequestParser.next_of_finished hfin] at hnext
  rw [write_blocks, hopen, hnext]
  simp only [Bool.false_eq_true, if_false, permits_write]
  by_cases hforbidden : block_touches_forbidden_region m_config block = true
  · simp [hforbidden]
  · by_cases hreadonly : block_touches_readonly_region m_config block = true
    · simp [hreadonly]
    · simp [hforbidden, hreadonly]

/-- The loop writes the blocks up to the first that is refused, and acknowledges
these. -/
theorem write_blocks_eq (m_config : Config) {parser : WriteMemoryBlocksRequestParser}
    {blocks : List MemoryBlock8Bits}
    (hparses : WriteMemoryBlocksRequestParser.Parses parser blocks) {fuel : Nat}
    (hfuel : blocks.length ≤ fuel) (encoder : ResponseEncoderBase) (memory : Memory) :
    write_blocks m_config fuel parser encoder memory =
      ((if blocks.all (permits_write m_config) then .OK else .Forbidden,
        ((blocks.takeWhile (permits_write m_config)).foldl
          WriteMemoryBlocksResponseEncoder.write encoder).m_response),
        write_all (blocks.takeWhile (permits_write m_config)) memory) := by
  induction hparses generalizing fuel encoder memory with
  | @last parser after block hnext hfin =>
    obtain ⟨fuel, rfl⟩ : ∃ n, fuel = n + 1 := ⟨fuel - 1, by simp at hfuel; omega⟩
    rw [write_blocks_next hnext]
    cases hpermits : permits_write m_config block with
    | true => simp [write_blocks_finished hfin, hpermits, write_all]
    | false => simp [hpermits, write_all]
  | @more parser after block blocks hnext hfin hrest ih =>
    obtain ⟨fuel, rfl⟩ : ∃ n, fuel = n + 1 := ⟨fuel - 1, by simp at hfuel; omega⟩
    have hfuel' : blocks.length ≤ fuel := by simpa using hfuel
    rw [write_blocks_next hnext]
    cases hpermits : permits_write m_config block with
    | true => simp [ih hfuel', hpermits, write_all]
    | false => simp [hpermits, write_all]

theorem request_blocks_length_le {request : Request} {masked : Bool}
    (hvalid : (WriteMemoryBlocksRequestParser.init request masked).m_invalid = false) :
    (WriteMemoryBlocksRequestParser.request_blocks request masked).length ≤
      request.data_length.toNat + 1 := by
  have hheader := block_header_size_bounds.1
  obtain ⟨_, _, hsize, _⟩ := WriteMemoryBlocksRequestParser.init_valid hvalid
  have hcount := Nat.le_mul_of_pos_right
    (WriteMemoryBlocksRequestParser.request_blocks request masked).length
    (Nat.lt_of_lt_of_le (by decide : 0 < 3) hheader)
  omega

/-- The outcome of a write request that passes the checks made on it as a whole. -/
theorem memory_write_of_accepts {self : MainHandler} {masked : Bool} {request : Request}
    (haccepts : self.accepts_write masked request = true) (response : Response) (memory : Memory) :
    self.memory_write masked request response memory =
      ((if (WriteMemoryBlocksRequestParser.request_blocks request masked).all
          (permits_write self.m_config) then .OK else .Forbidden,
        ((self.written_blocks masked request).foldl WriteMemoryBlocksResponseEncoder.write
          (ResponseEncoderBase.init response self.m_comm_handler.tx_buffer_size)).m_response),
        write_all (self.written_blocks masked request) memory) := by
  have hchecks := haccepts
  simp only [accepts_write, Bool.and_eq_true, Bool.not_eq_true', decide_eq_true_eq] at hchecks
  obtain ⟨⟨henable, hvalid⟩, hrequired⟩ := hchecks
  obtain ⟨hparses, _⟩ := WriteMemoryBlocksRequestParser.init_valid hvalid
  have hloop := write_blocks_eq self.m_config hparses
    (request_blocks_length_le hvalid)
    (ResponseEncoderBase.init response self.m_comm_handler.tx_buffer_size) memory
  simp only [memory_write, henable, hvalid, BitVec.not_lt.mpr hrequired, Bool.true_eq_false,
    Bool.false_eq_true, if_false]
  rw [hloop, written_blocks, if_pos haccepts]

/-- A write request that does not pass these checks is refused with nothing written. -/
theorem memory_write_of_not_accepts {self : MainHandler} {masked : Bool} {request : Request}
    (haccepts : self.accepts_write masked request = false) (response : Response)
    (memory : Memory) :
    (self.memory_write masked request response memory).1.1 ≠ .OK ∧
      (self.memory_write masked request response memory).2 = memory := by
  simp only [accepts_write, Bool.and_eq_false_iff, Bool.not_eq_false',
    decide_eq_false_iff_not, BitVec.not_le] at haccepts
  unfold memory_write
  split
  · exact ⟨by simp, rfl⟩
  · rename_i henable
    simp only
    split
    · exact ⟨by simp, rfl⟩
    · rename_i hvalid
      rw [if_pos (by simpa [henable, hvalid] using haccepts)]
      exact ⟨by simp, rfl⟩

theorem memory_write_memory (self : MainHandler) (masked : Bool) (request : Request)
    (response : Response) (memory : Memory) :
    (self.memory_write masked request response memory).2 =
      write_all (self.written_blocks masked request) memory := by
  cases haccepts : self.accepts_write masked request with
  | true => rw [memory_write_of_accepts haccepts]
  | false =>
    rw [(memory_write_of_not_accepts haccepts response memory).2, written_blocks, haccepts]
    rfl

theorem memory_write_ok_iff (self : MainHandler) (masked : Bool) (request : Request)
    (response : Response) (memory : Memory) :
    (self.memory_write masked request response memory).1.1 = .OK ↔
      self.accepts_write masked request = true ∧
        ∀ block ∈ WriteMemoryBlocksRequestParser.request_blocks request masked,
          permits_write self.m_config block = true := by
  cases haccepts : self.accepts_write masked request with
  | true =>
    rw [memory_write_of_accepts haccepts, ← List.all_eq_true]
    cases (WriteMemoryBlocksRequestParser.request_blocks request masked).all
      (permits_write self.m_config) <;> simp
  | false => simp [(memory_write_of_not_accepts haccepts response memory).1]

/-- The subfunction of a write request. -/
def write_subfunction (masked : Bool) : Subfunction := if masked then .WriteMasked else .Write

theorem process_memory_control_write {request : Request} {masked : Bool}
    (hwrite : Subfunction.cast request.subfunction_id = some (write_subfunction masked))
    (self : MainHandler) (stack : Stack) (response : Response) (memory : Memory) :
    self.process_memory_control stack request response memory =
      self.memory_write masked request response memory := by
  cases masked <;> simp [process_memory_control, hwrite, write_subfunction]

end scrutiny.MainHandler
