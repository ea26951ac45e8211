import Scrutiny.MemoryAccess
import Scrutiny.MemoryControl.Write
import Scrutiny.Host

open foundation

namespace scrutiny

open protocol protocol.MemoryControl

section

variable [Platform]

namespace protocol.ReadMemoryBlocksRequestParser

/-- The blocks that `next` gives one after the other. -/
def blocks : Nat → ReadMemoryBlocksRequestParser → List MemoryBlock8Bits
  | 0, _ => []
  | fuel + 1, self =>
    match self.next with
    | (_, none) => []
    | (self, some block) => block :: blocks fuel self

theorem blocks_of_finished {self : ReadMemoryBlocksRequestParser} (hfin : self.m_finished = true)
    (fuel : Nat) : blocks fuel self = [] := by
  cases fuel with
  | zero => rfl
  | succ fuel => simp [blocks, next, hfin]

/-- The blocks of a request, up to the first that is not well formed. -/
def request_blocks (request : Request) : List MemoryBlock8Bits :=
  blocks (request.data_length.toNat + 1) (init request)

end protocol.ReadMemoryBlocksRequestParser

namespace Config

def forbidden_byte (self : Config) (addr : Nat) : Bool :=
  self.forbidden_ranges.any fun range => decide (range.start ≤ addr ∧ addr ≤ range.end_addr)

def readonly_byte (self : Config) (addr : Nat) : Bool :=
  self.readonly_ranges.any fun range => decide (range.start ≤ addr ∧ addr ≤ range.end_addr)

end Config

/-- What the configuration lets the library do with one byte. -/
def Access.permitted (m_config : Config) : Access → Bool
  | .read addr => !m_config.forbidden_byte addr
  | .write addr =>
    m_config.memory_write_enable && !m_config.forbidden_byte addr && !m_config.readonly_byte addr

namespace MainHandler

/-- The accesses to the bytes of a block. -/
def Touches (block : MemoryBlock8Bits) (kind : Nat → Access) (access : Access) : Prop :=
  ∃ i < block.length.toNat, access = kind (uintptr (block.start_address + i))

theorem mem_accesses_write_masked {access : Access} (start_address : Nat)
    (source_data mask : ByteBuffer) (n i : Nat) (memory : Memory) :
    access ∈ (write_masked start_address source_data mask n i memory).accesses ↔
      (∃ k < n, access = .write (uintptr (start_address + (i + k))) ∨
        access = .read (uintptr (start_address + (i + k)))) ∨ access ∈ memory.accesses := by
  induction n generalizing i memory with
  | zero => simp [write_masked]
  | succ n ih =>
    simp only [write_masked, Memory.load, Memory.store]
    rw [ih, List.mem_cons, List.mem_cons, Nat.exists_lt_succ_left]
    simp only [Nat.add_zero, Nat.add_assoc, Nat.add_comm 1]
    simp only [or_assoc, or_left_comm]

theorem mem_accesses_write_block {access : Access} (block : MemoryBlock8Bits) (memory : Memory) :
    access ∈ (write_block block memory).accesses ↔
      Touches block .write access ∨ (block.mask.isSome ∧ Touches block .read access) ∨
        access ∈ memory.accesses := by
  cases hmask : block.mask with
  | none => simp [write_block, hmask, Memory.mem_accesses_copy_in, Touches]
  | some mask =>
    have hlength : block.length_char = block.length := by simp [MemoryBlock8Bits.length_char]
    simp only [write_block, hmask, hlength, mem_accesses_write_masked, Touches, Nat.zero_add]
    simp only [and_or_left, exists_or, Option.isSome_some, true_and]
    simp only [or_assoc, or_left_comm]

theorem mem_accesses_write_all {access : Access} (blocks : List MemoryBlock8Bits)
    (memory : Memory) :
    access ∈ (write_all blocks memory).accesses ↔
      (∃ block ∈ blocks, Touches block .write access ∨
        (block.mask.isSome ∧ Touches block .read access)) ∨ access ∈ memory.accesses := by
  induction blocks generalizing memory with
  | nil => simp [write_all]
  | cons block blocks ih =>
    have hrest := ih (write_block block memory)
    rw [mem_accesses_write_block] at hrest
    simp only [List.mem_cons, exists_eq_or_imp]
    refine hrest.trans ?_
    simp only [or_assoc, or_left_comm]

/-- The blocks that a read copies: the loop stops at the first that touches a forbidden
region or does not fit in the response. -/
def copied_blocks (m_config : Config) : Nat → List MemoryBlock8Bits → List MemoryBlock8Bits
  | _, [] => []
  | remaining, block :: blocks =>
    if block_touches_forbidden_region m_config block ∨
        block.length.toNat > MAXIMUM_TX_BUFFER_SIZE.toNat - block_header_size ∨
        block_header_size + block.length.toNat > remaining then []
    else
      block :: copied_blocks m_config (remaining - (block_header_size + block.length.toNat)) blocks

def read_all (blocks : List MemoryBlock8Bits) (memory : Memory) : Memory :=
  blocks.foldl (fun memory block =>
    (memory.copy_out block.start_address block.length.toNat).2) memory

theorem mem_accesses_read_all {access : Access} (blocks : List MemoryBlock8Bits)
    (memory : Memory) :
    access ∈ (read_all blocks memory).accesses ↔
      (∃ block ∈ blocks, Touches block .read access) ∨ access ∈ memory.accesses := by
  induction blocks generalizing memory with
  | nil => simp [read_all]
  | cons block blocks ih =>
    have hrest := ih (memory.copy_out block.start_address block.length.toNat).2
    rw [Memory.mem_accesses_copy_out] at hrest
    simp only [List.mem_cons, exists_eq_or_imp]
    refine hrest.trans ?_
    simp only [Touches, or_assoc, or_left_comm]

theorem read_write_refused {encoder : ResponseEncoderBase} {block : MemoryBlock8Bits}
    (hrefused : block.length.toNat > MAXIMUM_TX_BUFFER_SIZE.toNat - block_header_size ∨
      block_header_size + block.length.toNat > encoder.remaining) (memory : Memory) :
    ReadMemoryBlocksResponseEncoder.write encoder block memory =
      ({ encoder with m_overflow := true }, memory) := by
  unfold ReadMemoryBlocksResponseEncoder.write
  rcases hrefused with hlong | hfull
  · rw [if_pos hlong]
  · split
    · rfl
    · rfl

theorem read_write_accepted {encoder : ResponseEncoderBase} {block : MemoryBlock8Bits}
    (haccepted : ¬ (block.length.toNat > MAXIMUM_TX_BUFFER_SIZE.toNat - block_header_size ∨
      block_header_size + block.length.toNat > encoder.remaining)) (memory : Memory) :
    ReadMemoryBlocksResponseEncoder.write encoder block memory =
      (encoder.append (encode_block_header block ++
          (memory.copy_out block.start_address block.length.toNat).1),
        (memory.copy_out block.start_address block.length.toNat).2) := by
  obtain ⟨hlong, hfull⟩ := not_or.mp haccepted
  rw [ReadMemoryBlocksResponseEncoder.write, if_neg hlong, if_neg hfull]

theorem read_blocks_memory {m_config : Config} {encoder : ResponseEncoderBase}
    (hwf : encoder.WellFormed) (hflow : encoder.overflow = false) (fuel : Nat)
    (parser : ReadMemoryBlocksRequestParser) (memory : Memory) :
    (read_blocks m_config fuel parser encoder memory).2 =
      read_all (copied_blocks m_config encoder.remaining
        (ReadMemoryBlocksRequestParser.blocks fuel parser)) memory := by
  induction fuel generalizing parser encoder memory with
  | zero => rfl
  | succ fuel ih =>
    cases hfin : parser.m_finished with
    | true =>
      rw [ReadMemoryBlocksRequestParser.blocks_of_finished hfin]
      simp only [read_blocks, hfin, if_true]
      rfl
    | false =>
      match hnext : parser.next with
      | (after, none) =>
        simp only [read_blocks, hfin, hnext, Bool.false_eq_true, if_false,
          ReadMemoryBlocksRequestParser.blocks]
        rfl
      | (after, some block) =>
        simp only [read_blocks, hfin, hnext, Bool.false_eq_true, if_false,
          ReadMemoryBlocksRequestParser.blocks, copied_blocks]
        by_cases hforbidden : block_touches_forbidden_region m_config block = true
        · simp only [hforbidden, if_true, true_or]
          rfl
        · by_cases hrefused :
              block.length.toNat > MAXIMUM_TX_BUFFER_SIZE.toNat - block_header_size ∨
                block_header_size + block.length.toNat > encoder.remaining
          · simp only [hforbidden, hrefused, read_write_refused hrefused,
              ResponseEncoderBase.overflow, if_true, or_true, Bool.false_eq_true, if_false]
            rfl
          · obtain ⟨_, hfull⟩ := not_or.mp hrefused
            have hlength : (encode_block_header block ++
                (memory.copy_out block.start_address block.length.toNat).1).length =
                  block_header_size + block.length.toNat := by
              rw [List.length_append, length_encode_block_header, Memory.length_copy_out]
            obtain ⟨hwf', _, hremaining⟩ :=
              ResponseEncoderBase.append_of_fits hwf (hlength.trans_le (Nat.le_of_not_lt hfull))
            have hrest := ih hwf' hflow after
              (memory.copy_out block.start_address block.length.toNat).2
            rw [hremaining, hlength] at hrest
            simp only [hforbidden, hrefused, read_write_accepted hrefused, hflow, or_self,
              ResponseEncoderBase.overflow_append, Bool.false_eq_true, if_false]
            exact hrest

/-- The blocks of a read that are copied, unless the request as a whole is refused. -/
def read_request_blocks (self : MainHandler) (request : Request) : List MemoryBlock8Bits :=
  let parser := ReadMemoryBlocksRequestParser.init request
  if !parser.m_invalid &&
      decide (parser.m_required_tx_buffer_size ≤ self.m_comm_handler.tx_buffer_size) then
    copied_blocks self.m_config self.m_comm_handler.tx_buffer_size.toNat
      (ReadMemoryBlocksRequestParser.request_blocks request)
  else []

theorem memory_read_memory (self : MainHandler) (request : Request) (response : Response)
    (memory : Memory) :
    (self.memory_read request response memory).2 =
      read_all (self.read_request_blocks request) memory := by
  have hremaining := ResponseEncoderBase.remaining_init response
    self.m_comm_handler.tx_buffer_size
  simp only [memory_read, read_request_blocks]
  by_cases hvalid : (ReadMemoryBlocksRequestParser.init request).m_invalid = true
  · simp only [hvalid, if_true, Bool.not_true, Bool.false_and, Bool.false_eq_true, if_false]
    rfl
  · by_cases hrequired : (ReadMemoryBlocksRequestParser.init request).m_required_tx_buffer_size ≤
        self.m_comm_handler.tx_buffer_size
    · simp only [hvalid, hrequired, BitVec.not_lt.mpr hrequired, decide_true, Bool.not_false,
        Bool.and_true, Bool.false_eq_true, if_true, if_false]
      rw [read_blocks_memory (ResponseEncoderBase.wellFormed_init _ _) rfl, hremaining]
      rfl
    · simp only [hvalid, hrequired, BitVec.not_le.mp hrequired, decide_false, Bool.and_false,
        Bool.false_eq_true, if_true, if_false]
      rfl

/-- A block that passes the check against a region and does not run past the top of the
address space has no byte in it. -/
theorem not_in_region {ranges : List AddressRange} {start length : Nat}
    (hcheck : touches_region ranges start length = false) (htop : start + length ≤ address_space)
    {i : Nat} (hi : i < length) :
    (ranges.any fun range =>
      decide (range.start ≤ uintptr (start + i) ∧ uintptr (start + i) ≤ range.end_addr)) = false := by
  have hend : block_end start length = start + length - 1 := by
    have hsum : start + length + address_space - 1 = start + length - 1 + address_space := by omega
    rw [block_end, hsum, uintptr, Nat.add_mod_right, Nat.mod_eq_of_lt (by omega)]
  have hbyte : uintptr (start + i) = start + i := uintptr_of_lt (by omega)
  rw [touches_region, List.any_eq_false] at hcheck
  rw [List.any_eq_false]
  intro range hmem
  have hrange := hcheck range hmem
  simp only [hend, Bool.and_eq_true, decide_eq_true_eq] at hrange
  simp only [hbyte, decide_eq_true_eq]
  omega

/-- The bytes of a block that the subfunction must leave alone. -/
def protected_byte (m_config : Config) (subfunction : Subfunction) (addr : Nat) : Bool :=
  m_config.forbidden_byte addr || (decide (subfunction ≠ .Read) && m_config.readonly_byte addr)

/-- The blocks whose bytes a memory request accesses. -/
def accessed_blocks (self : MainHandler) (request : Request) :
    Subfunction → List MemoryBlock8Bits
  | .Read => self.read_request_blocks request
  | .Write => self.written_blocks false request
  | .WriteMasked => self.written_blocks true request
  | .ReadRPV => []
  | .WriteRPV => []

theorem copied_blocks_checked {m_config : Config} {block : MemoryBlock8Bits}
    {blocks : List MemoryBlock8Bits} {remaining : Nat}
    (hmem : block ∈ copied_blocks m_config remaining blocks) :
    block_touches_forbidden_region m_config block = false := by
  induction blocks generalizing remaining with
  | nil => cases hmem
  | cons first blocks ih =>
    rw [copied_blocks] at hmem
    split at hmem
    · cases hmem
    · rename_i hchecks
      rcases List.mem_cons.mp hmem with rfl | hmem
      · simpa using (not_or.mp hchecks).1
      · exact ih hmem

theorem written_blocks_checked {self : MainHandler} {masked : Bool} {request : Request}
    {block : MemoryBlock8Bits} (hmem : block ∈ self.written_blocks masked request) :
    self.m_config.memory_write_enable = true ∧ permits_write self.m_config block = true := by
  rw [written_blocks] at hmem
  split at hmem
  · rename_i haccepts
    simp only [accepts_write, Bool.and_eq_true] at haccepts
    exact ⟨haccepts.1.1, List.mem_takeWhile_imp hmem⟩
  · cases hmem

/-- What was checked of a block before its bytes are accessed. -/
theorem accessed_blocks_checked {self : MainHandler} {request : Request}
    {subfunction : Subfunction} {block : MemoryBlock8Bits}
    (hmem : block ∈ self.accessed_blocks request subfunction) :
    block_touches_forbidden_region self.m_config block = false ∧
      (subfunction ≠ .Read → self.m_config.memory_write_enable = true ∧
        block_touches_readonly_region self.m_config block = false) := by
  have hwritten (masked : Bool) (hmem : block ∈ self.written_blocks masked request) :
      block_touches_forbidden_region self.m_config block = false ∧
        self.m_config.memory_write_enable = true ∧
          block_touches_readonly_region self.m_config block = false := by
    obtain ⟨henable, hpermits⟩ := written_blocks_checked hmem
    simp only [permits_write, Bool.and_eq_true, Bool.not_eq_true'] at hpermits
    exact ⟨hpermits.1, henable, hpermits.2⟩
  cases subfunction with
  | Read =>
    simp only [accessed_blocks, read_request_blocks] at hmem
    split at hmem
    · exact ⟨copied_blocks_checked hmem, fun hread => absurd rfl hread⟩
    · cases hmem
  | Write =>
    obtain ⟨hforbidden, hwrite⟩ := hwritten false hmem
    exact ⟨hforbidden, fun _ => hwrite⟩
  | WriteMasked =>
    obtain ⟨hforbidden, hwrite⟩ := hwritten true hmem
    exact ⟨hforbidden, fun _ => hwrite⟩
  | ReadRPV => cases hmem
  | WriteRPV => cases hmem

/-- The accesses of a subfunction to the bytes of a block. -/
def Accesses (subfunction : Subfunction) (block : MemoryBlock8Bits) (access : Access) : Prop :=
  if subfunction = .Read then Touches block .read access
  else Touches block .write access ∨ (block.mask.isSome ∧ Touches block .read access)

/-- The bytes accessed are those of the accessed blocks. -/
theorem mem_accesses_iff {request : Request} {subfunction : Subfunction}
    (hcast : Subfunction.cast request.subfunction_id = some subfunction)
    (hblocks : subfunction = .Read ∨ subfunction = .Write ∨ subfunction = .WriteMasked)
    (self : MainHandler) (stack : Stack) (response : Response) (bytes : Nat → uint8_t)
    (access : Access) :
    access ∈ (self.process_memory_control stack request response ⟨bytes, []⟩).2.accesses ↔
      ∃ block ∈ self.accessed_blocks request subfunction, Accesses subfunction block access := by
  rcases hblocks with rfl | rfl | rfl
  · simp [process_memory_control, hcast, memory_read_memory, mem_accesses_read_all,
      accessed_blocks, Accesses]
  · simp [process_memory_control, hcast, memory_write_memory, mem_accesses_write_all,
      accessed_blocks, Accesses]
  · simp [process_memory_control, hcast, memory_write_memory, mem_accesses_write_all,
      accessed_blocks, Accesses]

/-- The accesses to a block are permitted when none of its bytes is protected. -/
theorem accesses_permitted_iff {self : MainHandler} {request : Request}
    {subfunction : Subfunction} {block : MemoryBlock8Bits}
    (hmem : block ∈ self.accessed_blocks request subfunction) :
    (∀ access, Accesses subfunction block access → access.permitted self.m_config = true) ↔
      ∀ i < block.length.toNat,
        protected_byte self.m_config subfunction (uintptr (block.start_address + i)) = false := by
  have hchecked := (accessed_blocks_checked hmem).2
  by_cases hread : subfunction = .Read
  · simp only [Accesses, protected_byte, hread, if_true, ne_eq, not_true, decide_false,
      Bool.false_and, Bool.or_false]
    constructor
    · intro hpermitted i hi
      simpa [Access.permitted] using hpermitted _ ⟨i, hi, rfl⟩
    · rintro hbytes access ⟨i, hi, rfl⟩
      simpa [Access.permitted] using hbytes i hi
  · obtain ⟨henable, _⟩ := hchecked hread
    simp only [Accesses, protected_byte, hread, if_false, ne_eq, not_false_eq_true, decide_true,
      Bool.true_and, Bool.or_eq_false_iff]
    constructor
    · intro hpermitted i hi
      simpa [Access.permitted, henable] using hpermitted _ (.inl ⟨i, hi, rfl⟩)
    · rintro hbytes access (⟨i, hi, rfl⟩ | ⟨_, i, hi, rfl⟩)
      · simpa [Access.permitted, henable] using hbytes i hi
      · simpa [Access.permitted] using (hbytes i hi).1

/-- The protected regions are respected just when no accessed block that runs past the
top of the address space, where the check of its end wraps around, has a protected byte. -/
theorem regions_respected_iff {request : Request} {subfunction : Subfunction}
    (hcast : Subfunction.cast request.subfunction_id = some subfunction)
    (hblocks : subfunction = .Read ∨ subfunction = .Write ∨ subfunction = .WriteMasked)
    (self : MainHandler) (stack : Stack) (response : Response) (bytes : Nat → uint8_t) :
    (∀ access ∈ (self.process_memory_control stack request response ⟨bytes, []⟩).2.accesses,
      access.permitted self.m_config = true) ↔
      ∀ block ∈ self.accessed_blocks request subfunction,
        address_space < block.start_address + block.length.toNat →
          ∀ i < block.length.toNat,
            protected_byte self.m_config subfunction (uintptr (block.start_address + i)) = false := by
  simp only [mem_accesses_iff hcast hblocks]
  constructor
  · intro hpermitted block hmem _
    exact (accesses_permitted_iff hmem).mp fun access haccess =>
      hpermitted access ⟨block, hmem, haccess⟩
  · rintro hwrapping access ⟨block, hmem, haccess⟩
    refine (accesses_permitted_iff hmem).mpr ?_ access haccess
    by_cases htop : block.start_address + block.length.toNat ≤ address_space
    · intro i hi
      obtain ⟨hforbidden, hwrite⟩ := accessed_blocks_checked hmem
      rw [block_touches_forbidden_region_eq] at hforbidden
      rw [protected_byte, Config.forbidden_byte, not_in_region hforbidden htop hi, Bool.false_or]
      by_cases hread : subfunction = .Read
      · simp [hread]
      · have hreadonly := (hwrite hread).2
        rw [block_touches_readonly_region_eq] at hreadonly
        rw [Config.readonly_byte, not_in_region hreadonly htop hi, Bool.and_false]
    · exact hwrapping block hmem (Nat.lt_of_not_le htop)

end MainHandler

end

namespace MainHandler

attribute [local instance] host.platform

/-- The last bytes of the address space are forbidden. -/
def guarded_top : MainHandler :=
  (host.initialized 256 [⟨0xFFFFFFFFFFFFFFF0, 0xFFFFFFFFFFFFFFFF⟩] (by decide)).main

/-- The read of two bytes, the second of which is at address 0. -/
def wrapping_read : Request := host.memory_request 1 (host.block_header 0xFFFFFFFFFFFFFFFF 2)

theorem wrapping_read_not_permitted :
    ¬ ∀ access ∈ (guarded_top.process_memory_control host.stack wrapping_read host.response
        ⟨fun _ => 0, []⟩).2.accesses,
      access.permitted guarded_top.m_config = true := by
  decide +kernel

/-- The read of the bytes below the forbidden ones. -/
def bordering_read : Request := host.memory_request 1 (host.block_header 0xFFFFFFFFFFFFFFEE 2)

theorem bordering_read_permitted :
    (guarded_top.process_memory_control host.stack bordering_read host.response
        ⟨fun _ => 0, []⟩).2.accesses ≠ [] ∧
      ∀ access ∈ (guarded_top.process_memory_control host.stack bordering_read host.response
          ⟨fun _ => 0, []⟩).2.accesses,
        access.permitted guarded_top.m_config = true := by
  have hcast : Subfunction.cast bordering_read.subfunction_id = some .Read := by decide +kernel
  refine ⟨by decide +kernel, ?_⟩
  rw [regions_respected_iff hcast (.inl rfl)]
  decide +kernel

end MainHandler

end scrutiny
