import Scrutiny.MemoryControl.Header
import Scrutiny.MemoryControl.Refusal

open foundation

namespace scrutiny

open protocol protocol.MemoryControl

section

variable [Platform]

namespace protocol

/-- A block of a write request: its bytes, and the mask of each in a masked write. -/
structure StoredBlock extends BlockHeader where
  source : List uint8_t
  mask : Option (List uint8_t)
  source_length : source.length = length.toNat
  mask_length : ∀ bytes ∈ mask, bytes.length = length.toNat

namespace StoredBlock

def encode (self : StoredBlock) : List uint8_t :=
  self.toBlockHeader.encode ++ self.source ++ self.mask.getD []

/-- The value of the byte at an index of the block, over what was there. -/
def byte (self : StoredBlock) (i : Nat) (old : uint8_t) : uint8_t :=
  match self.mask with
  | none => self.source.getD i 0
  | some mask => (old &&& ~~~(mask.getD i 0)) ||| (self.source.getD i 0 &&& mask.getD i 0)

/-- The address of the byte at an index of the block. -/
def address (self : StoredBlock) (i : Nat) : Nat := uintptr (self.start_address + i)

/-- The memory after the block, byte after byte. -/
def apply (self : StoredBlock) (bytes : Nat → uint8_t) : Nat → uint8_t :=
  (List.range self.length.toNat).foldl (fun bytes i =>
    Function.update bytes (self.address i) (self.byte i (bytes (self.address i)))) bytes

theorem apply_of_outside {block : StoredBlock} {addr : Nat}
    (houtside : ∀ i < block.length.toNat, block.address i ≠ addr) (bytes : Nat → uint8_t) :
    block.apply bytes addr = bytes addr :=
  foldl_update_of_ne (fun i hi => houtside i (List.mem_range.mp hi)) bytes

/-- The memory after some blocks, in order. -/
def apply_all (blocks : List StoredBlock) (bytes : Nat → uint8_t) : Nat → uint8_t :=
  blocks.foldl (fun bytes block => block.apply bytes) bytes

theorem apply_all_of_outside {blocks : List StoredBlock} {addr : Nat}
    (houtside : ∀ block ∈ blocks, ∀ i < block.length.toNat, block.address i ≠ addr)
    (bytes : Nat → uint8_t) : apply_all blocks bytes addr = bytes addr := by
  induction blocks generalizing bytes with
  | nil => rfl
  | cons block blocks ih =>
    have hrest := ih (fun other hother => houtside other (List.mem_cons_of_mem _ hother))
      (block.apply bytes)
    exact hrest.trans (apply_of_outside (houtside block List.mem_cons_self) bytes)

end StoredBlock

namespace WriteMemoryBlocksRequestParser

/-- The bytes of the request that are not read yet. -/
def rest (self : WriteMemoryBlocksRequestParser) : List uint8_t :=
  self.m_buffer.slice self.m_bytes_read.toNat
    (self.m_size_limit.toNat - self.m_bytes_read.toNat)

/-- The block with the length decoded next. -/
def stored (self : WriteMemoryBlocksRequestParser) : StoredBlock :=
  let header := header_at self.m_buffer self.m_bytes_read.toNat
  let position := self.m_bytes_read.toNat + block_header_size
  let mask_position := position + header.length.toNat
  { header with
    source := self.m_buffer.slice position header.length.toNat
    mask := if self.m_masked_write then
      some (self.m_buffer.slice mask_position header.length.toNat) else none
    source_length := Buffer.length_slice _ _ _
    mask_length := by
      intro bytes hbytes
      split at hbytes
      · rw [← Option.some.inj hbytes]
        exact Buffer.length_slice _ _ _
      · cases hbytes }

/-- The bytes of the source and of the mask of a block. -/
def stored_size (self : WriteMemoryBlocksRequestParser) : Nat :=
  if self.m_masked_write then 2 * self.next_length.toNat else self.next_length.toNat

theorem next_eq_stored {self after : WriteMemoryBlocksRequestParser} {block : MemoryBlock8Bits}
    (hnext : self.next = (after, some block)) (hread : self.m_bytes_read ≤ self.m_size_limit) :
    self.next_length = self.stored.length ∧
      after.m_bytes_read.toNat =
        self.m_bytes_read.toNat + block_header_size + self.stored_size ∧
      after.m_finished = decide (after.m_bytes_read = self.m_size_limit) ∧
      block = {
        start_address := self.stored.start_address
        length := self.stored.length
        source_data := self.m_buffer.shift (self.m_bytes_read.toNat + block_header_size)
        mask :=
          if self.m_masked_write then
            some (self.m_buffer.shift (self.m_bytes_read.toNat + block_header_size +
              self.stored.length.toNat))
          else none } := by
  obtain ⟨_, hheader⟩ := block_header_size_bounds
  unfold next at hnext
  split at hnext
  · simp at hnext
  · split at hnext
    · simp at hnext
    · rename_i hroom
      split at hnext
      · simp at hnext
      · rename_i hlength
        simp only at hnext
        split at hnext
        · simp at hnext
        · rename_i hbound
          simp only [Prod.mk.injEq, Option.some.injEq] at hnext
          obtain ⟨hafter, hblock⟩ := hnext
          have hposition := data_position_toNat hread (Nat.le_of_not_lt hroom)
          have hle : self.data_position ≤ self.m_size_limit := by bv_omega
          have hhalf := half_remaining_toNat hle
          have hsame : self.next_length = self.stored.length := by
            have hlength_position : self.length_position.toNat =
                self.m_bytes_read.toNat + Platform.addr_size := by
              have haddr := addr_size_le
              unfold data_position at hposition
              unfold block_header_size at hposition
              unfold length_position at hposition ⊢
              bv_omega
            rw [next_length, hlength_position]
            rfl
          have hmask_position : (self.data_position + self.next_length).toNat =
              self.m_bytes_read.toNat + block_header_size + self.next_length.toNat := by
            bv_omega
          refine ⟨hsame, ?_, ?_, ?_⟩
          · rw [← hafter, stored_size]
            cases hmask : self.m_masked_write with
            | false =>
              simp only [Bool.false_eq_true, if_false]
              omega
            | true =>
              simp only [hmask, true_and, if_true] at hlength ⊢
              bv_omega
          · rw [← hafter]
          · rw [← hblock, hmask_position, hposition, hsame]
            rfl

/-- What `next` gives is the block at the start of what is left of the request. -/
theorem next_stored {self after : WriteMemoryBlocksRequestParser} {block : MemoryBlock8Bits}
    (hnext : self.next = (after, some block)) (hread : self.m_bytes_read ≤ self.m_size_limit) :
    self.rest = self.stored.encode ++ after.rest ∧
      (after.m_finished = true → after.rest = []) := by
  have hadvances := next_some hnext hread
  obtain ⟨hlength, hend, hfinished, _⟩ := next_eq_stored hnext hread
  have hin := hadvances.in_request
  rw [hadvances.same_request.size_limit] at hin
  have hin : after.m_bytes_read.toNat ≤ self.m_size_limit.toNat := hin
  constructor
  · have hsplit : self.m_size_limit.toNat - self.m_bytes_read.toNat =
        block_header_size + self.stored_size +
          (self.m_size_limit.toNat - after.m_bytes_read.toNat) := by
      omega
    have hafter : self.m_bytes_read.toNat + (block_header_size + self.stored_size) =
        after.m_bytes_read.toNat := by
      omega
    have hstored : self.m_buffer.slice (self.m_bytes_read.toNat + block_header_size)
        self.stored_size = self.stored.source ++ self.stored.mask.getD [] := by
      rw [stored_size, hlength]
      cases hmask : self.m_masked_write with
      | false => simp [stored, hmask]
      | true =>
        simp only [if_true, Nat.two_mul, Buffer.slice_add, stored, hmask, Option.getD_some]
    have hheader : header_at self.m_buffer self.m_bytes_read.toNat =
        self.stored.toBlockHeader := rfl
    rw [rest, hsplit, Buffer.slice_add, hafter, Buffer.slice_add, BlockHeader.slice_header, hstored,
      hheader, rest, hadvances.same_request.buffer, hadvances.same_request.size_limit,
      StoredBlock.encode]
    simp only [List.append_assoc]
  · intro hlast
    rw [hfinished, decide_eq_true_eq] at hlast
    rw [rest, hadvances.same_request.size_limit, hlast, Nat.sub_self]
    rfl

/-- The stores of a block are those of the bytes it is made of. -/
theorem next_apply {self after : WriteMemoryBlocksRequestParser} {block : MemoryBlock8Bits}
    (hnext : self.next = (after, some block)) (hread : self.m_bytes_read ≤ self.m_size_limit)
    (bytes : Nat → uint8_t) :
    MaskedStore.apply_all bytes (MainHandler.block_stores block) = self.stored.apply bytes := by
  obtain ⟨_, _, _, hblock⟩ := next_eq_stored hnext hread
  have hbyte {i : Nat} (hi : i < self.stored.length.toNat) (bytes : Nat → uint8_t) :
      MaskedStore.apply bytes (MainHandler.byte_store block i) =
        Function.update bytes (self.stored.address i)
          (self.stored.byte i (bytes (self.stored.address i))) := by
    have hsource (position : Nat) : (self.m_buffer.slice position
        self.stored.length.toNat).getD i 0 = self.m_buffer (position + i) := by
      rw [List.getD_eq_getElem?_getD, Buffer.getElem?_slice _ hi, Option.getD_some]
    have haddr : (MainHandler.byte_store block i).addr = self.stored.address i := by
      rw [hblock]
      rfl
    rw [MaskedStore.apply, haddr]
    congr 1
    rw [hblock, MaskedStore.value, StoredBlock.byte]
    cases hmask : self.m_masked_write with
    | false =>
      have hnone : self.stored.mask = none := by simp [stored, hmask]
      rw [hnone]
      simp only [MainHandler.byte_store, MemoryBlock8Bits.mask_byte, Bool.false_eq_true, if_false,
        BitVec.not_allOnes, BitVec.and_zero, BitVec.zero_or, BitVec.and_allOnes]
      exact (hsource _).symm
    | true =>
      have hsome : self.stored.mask = some (self.m_buffer.slice (self.m_bytes_read.toNat +
          block_header_size + self.stored.length.toNat) self.stored.length.toNat) := by
        simp [stored, hmask]
      rw [hsome]
      simp only [MainHandler.byte_store, MemoryBlock8Bits.mask_byte, if_true]
      rw [hsource]
      exact congrArg _ (congrArg (· &&& _) (hsource _).symm)
  have hlength : block.length = self.stored.length := by rw [hblock]
  rw [MainHandler.block_stores, hlength, ← List.range_eq_range', MaskedStore.apply_all,
    List.foldl_map, StoredBlock.apply]
  exact List.foldl_ext _ _ _ fun bytes i hi => hbyte (List.mem_range.mp hi) bytes

/-- The blocks that are parsed are the bytes of the request, with the same effect. -/
theorem Parses.stored {self : WriteMemoryBlocksRequestParser} {list : List MemoryBlock8Bits}
    (hparses : Parses self list) (hread : self.m_bytes_read ≤ self.m_size_limit) :
    ∃ blocks : List StoredBlock, blocks ≠ [] ∧
      (∀ block ∈ blocks, block.mask.isSome = self.m_masked_write) ∧
      self.rest = blocks.flatMap StoredBlock.encode ∧
      ∀ bytes, MaskedStore.apply_all bytes (list.flatMap MainHandler.block_stores) =
        StoredBlock.apply_all blocks bytes := by
  have hmasked (self : WriteMemoryBlocksRequestParser) :
      self.stored.mask.isSome = self.m_masked_write := by
    cases hmask : self.m_masked_write <;> simp [WriteMemoryBlocksRequestParser.stored, hmask]
  induction hparses with
  | @last self after block hnext hfin =>
    obtain ⟨hrest, hend⟩ := next_stored hnext hread
    refine ⟨[self.stored], List.cons_ne_nil _ _, ?_, ?_, fun bytes => ?_⟩
    · simp [hmasked]
    · rw [hrest, hend hfin]
      simp
    · simpa [StoredBlock.apply_all] using next_apply hnext hread bytes
  | @more self after block list hnext hfin hparses ih =>
    have hadvances := next_some hnext hread
    obtain ⟨hrest, _⟩ := next_stored hnext hread
    obtain ⟨blocks, _, hmask, hblocks, happly⟩ := ih hadvances.in_request
    refine ⟨self.stored :: blocks, List.cons_ne_nil _ _, ?_, ?_, fun bytes => ?_⟩
    · rw [hadvances.same_request.masked_write] at hmask
      simpa [hmasked] using hmask
    · rw [hrest, hblocks, List.flatMap_cons]
    · rw [List.flatMap_cons, MaskedStore.apply_all_append, next_apply hnext hread, happly]
      rfl

theorem next_same_request (self : WriteMemoryBlocksRequestParser) :
    SameRequest self self.next.1 := by
  unfold next
  simp only
  repeat' split
  all_goals exact ⟨rfl, rfl, rfl⟩

theorem traverse_same_request (fuel : Nat) (self : WriteMemoryBlocksRequestParser) :
    SameRequest self (traverse fuel self) := by
  induction fuel generalizing self with
  | zero => exact ⟨rfl, rfl, rfl⟩
  | succ fuel ih =>
    have hnext := next_same_request self
    unfold traverse
    split
    · rename_i after hsome
      rw [hsome] at hnext
      exact hnext
    · rename_i after block hsome
      rw [hsome] at hnext
      split
      · exact hnext
      · obtain ⟨hbuffer, hlimit, hmasked⟩ := ih (after.set_required _)
        exact hnext.trans ⟨hbuffer, hlimit, hmasked⟩

/-- The parser starts over at the beginning of the request. -/
theorem init_rest (request : Request) (masked_write : Bool) :
    (init request masked_write).rest = request.payload ∧
      (init request masked_write).m_masked_write = masked_write := by
  obtain ⟨hbuffer, hlimit, hmasked⟩ := traverse_same_request (request.data_length.toNat + 1) {
    m_buffer := request.data
    m_bytes_read := 0
    m_size_limit := request.data_length
    m_required_tx_buffer_size := 0
    m_finished := false
    m_invalid := false
    m_masked_write := masked_write }
  refine ⟨?_, hmasked⟩
  simp only [rest, init, hbuffer, hlimit, Request.payload]
  rfl

end WriteMemoryBlocksRequestParser

end protocol

namespace MainHandler

/-- A write answered OK was made of blocks, which are written one after the other, and leaves
all other bytes alone. -/
theorem written_exactly {request : Request} {masked : Bool}
    (hwrite : Subfunction.cast request.subfunction_id = some (write_subfunction masked))
    (self : MainHandler) (stack : Stack) (response : Response) (memory : Memory)
    (hok : (self.process_memory_control stack request response memory).1.1 = .OK) :
    ∃ blocks : List StoredBlock, blocks ≠ [] ∧
      (∀ block ∈ blocks, block.mask.isSome = masked) ∧
      request.payload = blocks.flatMap StoredBlock.encode ∧
      (self.process_memory_control stack request response memory).2.bytes =
        StoredBlock.apply_all blocks memory.bytes ∧
      ∀ addr, (∀ block ∈ blocks, ∀ i < block.length.toNat, block.address i ≠ addr) →
        (self.process_memory_control stack request response memory).2.bytes addr =
          memory.bytes addr := by
  rw [process_memory_control_write hwrite] at hok ⊢
  obtain ⟨haccepts, hpermitted⟩ := (memory_write_ok_iff self masked request response memory).mp hok
  have hwritten : self.written_blocks masked request =
      WriteMemoryBlocksRequestParser.request_blocks request masked := by
    rw [written_blocks, if_pos haccepts, List.takeWhile_eq_self_iff]
    exact hpermitted
  have hvalid : (WriteMemoryBlocksRequestParser.init request masked).m_invalid = false := by
    simp only [accepts_write, Bool.and_eq_true, Bool.not_eq_true'] at haccepts
    exact haccepts.1.2
  obtain ⟨hparses, _⟩ := WriteMemoryBlocksRequestParser.init_valid hvalid
  obtain ⟨hpayload, hmasked⟩ := WriteMemoryBlocksRequestParser.init_rest request masked
  obtain ⟨blocks, hblocks, hmask, hrest, happly⟩ := hparses.stored (Nat.zero_le _)
  have hbytes : (self.memory_write masked request response memory).2.bytes =
      StoredBlock.apply_all blocks memory.bytes := by
    rw [memory_write_memory, hwritten, write_all_bytes, happly]
  rw [hmasked] at hmask
  rw [hpayload] at hrest
  refine ⟨blocks, hblocks, hmask, hrest, hbytes, fun addr houtside => ?_⟩
  rw [hbytes]
  exact StoredBlock.apply_all_of_outside houtside memory.bytes

end MainHandler

end

namespace MainHandler

attribute [local instance] host.platform

/-- Two masked writes that overlap in one byte. -/
def overlapping_writes : Request :=
  host.memory_request 3
    (host.block_header 0x1000 2 ++ [0x12, 0x34, 0x0F, 0xFF] ++
      host.block_header 0x1001 1 ++ [0xA0, 0xF0])

theorem overlapping_writes_stored :
    let memory : Memory := ⟨fun _ => 0x55, []⟩
    let result := host.start.main.process_memory_control host.stack overlapping_writes host.response
      memory
    ∃ blocks : List StoredBlock, blocks ≠ [] ∧
      (∀ block ∈ blocks, block.mask.isSome = true) ∧
      overlapping_writes.payload = blocks.flatMap StoredBlock.encode ∧
      result.2.bytes = StoredBlock.apply_all blocks memory.bytes ∧
      ∀ addr, (∀ block ∈ blocks, ∀ i < block.length.toNat, block.address i ≠ addr) →
        result.2.bytes addr = memory.bytes addr :=
  written_exactly (by decide +kernel) host.start.main host.stack host.response ⟨fun _ => 0x55, []⟩
    (by decide +kernel)

end MainHandler

end scrutiny
