import Scrutiny.MemoryControl.Write
import Scrutiny.Host

open foundation

namespace scrutiny

open protocol protocol.MemoryControl

/-- The bits of a byte of the block that a write sets. -/
def MemoryBlock8Bits.mask_byte (self : MemoryBlock8Bits) (i : Nat) : uint8_t :=
  match self.mask with
  | none => BitVec.allOnes 8
  | some mask => mask i

namespace MainHandler

section

variable [Platform]

/-- The write of one byte of a block as a masked store. -/
def byte_store (block : MemoryBlock8Bits) (i : Nat) : MaskedStore Nat 8 where
  addr := uintptr (block.start_address + i)
  source := block.source_data i
  mask := block.mask_byte i

def block_stores (block : MemoryBlock8Bits) : List (MaskedStore Nat 8) :=
  (List.range' 0 block.length.toNat).map (byte_store block)

theorem store_bytes (memory : Memory) (addr : Nat) (value : uint8_t) :
    (memory.store addr value).bytes = Function.update memory.bytes (uintptr addr) value := by
  funext a
  by_cases ha : a = uintptr addr
  · subst ha
    simp [Memory.store]
  · simp [Memory.store, ha]

theorem copy_in_bytes {block : MemoryBlock8Bits} (hmask : block.mask = none) (n i : Nat)
    (memory : Memory) :
    (memory.copy_in (block.start_address + i) (block.source_data.slice i n)).bytes =
      MaskedStore.apply_all memory.bytes ((List.range' i n).map (byte_store block)) := by
  induction n generalizing i memory with
  | zero => rfl
  | succ n ih =>
    have hfirst : (memory.store (block.start_address + i) (block.source_data i)).bytes =
        MaskedStore.apply memory.bytes (byte_store block i) := by
      have hvalue (old : uint8_t) : (byte_store block i).value old = block.source_data i := by
        have hbyte : block.mask_byte i = BitVec.allOnes 8 := by
          simp only [MemoryBlock8Bits.mask_byte, hmask]
        simp only [MaskedStore.value, byte_store, hbyte, BitVec.and_allOnes, BitVec.not_allOnes,
          BitVec.and_zero, BitVec.zero_or]
      rw [store_bytes, MaskedStore.apply, hvalue]
      rfl
    rw [Buffer.slice_succ, Memory.copy_in, Nat.add_assoc, ih, hfirst]
    rfl

omit [Platform] in
/-- The two assignments of a masked write set the bits of the mask and no others. -/
theorem masked_value (old source mask : uint8_t) :
    (old ||| (source &&& mask)) &&& (source ||| ~~~mask) =
      (old &&& ~~~mask) ||| (source &&& mask) := by
  ext k hk
  simp only [BitVec.getElem_and, BitVec.getElem_or, BitVec.getElem_not]
  cases old[k] <;> cases source[k] <;> cases mask[k] <;> rfl

theorem write_masked_bytes {block : MemoryBlock8Bits} {mask : ByteBuffer}
    (hmask : block.mask = some mask) (n i : Nat) (memory : Memory) :
    (write_masked block.start_address block.source_data mask n i memory).bytes =
      MaskedStore.apply_all memory.bytes ((List.range' i n).map (byte_store block)) := by
  induction n generalizing i memory with
  | zero => rfl
  | succ n ih =>
    have hfirst (value : uint8_t) (accesses : List Access)
        (hvalue : value = (byte_store block i).value
          (memory.bytes (uintptr (block.start_address + i)))) :
        (({ memory with accesses } : Memory).store (block.start_address + i) value).bytes =
          MaskedStore.apply memory.bytes (byte_store block i) := by
      rw [store_bytes, hvalue]
      rfl
    rw [write_masked]
    simp only [Memory.load]
    rw [ih, hfirst]
    · rfl
    · rw [masked_value]
      simp [MaskedStore.value, byte_store, MemoryBlock8Bits.mask_byte, hmask]

theorem write_block_bytes (block : MemoryBlock8Bits) (memory : Memory) :
    (write_block block memory).bytes = MaskedStore.apply_all memory.bytes (block_stores block) := by
  cases hmask : block.mask with
  | none =>
    simp only [write_block, hmask]
    exact copy_in_bytes hmask block.length.toNat 0 memory
  | some mask =>
    have hlength : block.length_char = block.length := by simp [MemoryBlock8Bits.length_char]
    simp only [write_block, hmask, hlength]
    exact write_masked_bytes hmask block.length.toNat 0 memory

theorem write_all_bytes (blocks : List MemoryBlock8Bits) (memory : Memory) :
    (write_all blocks memory).bytes =
      MaskedStore.apply_all memory.bytes (blocks.flatMap block_stores) := by
  induction blocks generalizing memory with
  | nil => rfl
  | cons block blocks ih =>
    have hrest := ih (write_block block memory)
    rw [write_block_bytes] at hrest
    rw [List.flatMap_cons, MaskedStore.apply_all_append]
    exact hrest

/-- The write of the block sets no bit. -/
def sets_nothing (block : MemoryBlock8Bits) : Prop :=
  ∀ i < block.length.toNat, block.mask_byte i = 0

instance (block : MemoryBlock8Bits) : Decidable (sets_nothing block) :=
  inferInstanceAs (Decidable (∀ i < block.length.toNat, block.mask_byte i = 0))

theorem block_stores_masks_zero_iff (blocks : List MemoryBlock8Bits) :
    (∀ store ∈ blocks.flatMap block_stores, store.mask = 0) ↔
      ∀ block ∈ blocks, sets_nothing block := by
  simp only [List.mem_flatMap, block_stores, List.mem_map, List.mem_range'_1, sets_nothing]
  constructor
  · intro hmasks block hmem i hi
    exact hmasks (byte_store block i) ⟨block, hmem, i, by omega, rfl⟩
  · rintro hnothing store ⟨block, hmem, i, hi, rfl⟩
    exact hnothing block hmem i (by omega)

/-- A refused write changes no memory just when the request is not refused for one of
its blocks, or no block before the first that is refused sets any bit. -/
theorem refused_write_changes_nothing_iff {request : Request} {masked : Bool}
    (hwrite : Subfunction.cast request.subfunction_id = some (write_subfunction masked))
    (self : MainHandler) (stack : Stack) (response : Response) :
    (∀ memory : Memory,
      (self.process_memory_control stack request response memory).1.1 ≠ .OK →
        ∀ addr, (self.process_memory_control stack request response memory).2.bytes addr =
          memory.bytes addr) ↔
      (∀ block ∈ WriteMemoryBlocksRequestParser.request_blocks request masked,
        permits_write self.m_config block = true) ∨
      ∀ block ∈ self.written_blocks masked request, sets_nothing block := by
  simp only [process_memory_control_write hwrite, memory_write_memory, ne_eq,
    memory_write_ok_iff, not_and]
  constructor
  · intro hrefused
    rw [or_iff_not_imp_left]
    intro hsome
    cases haccepts : self.accepts_write masked request with
    | false => simp [written_blocks, haccepts]
    | true =>
      rw [← block_stores_masks_zero_iff, ← MaskedStore.apply_all_eq_self_iff]
      intro words
      have hbytes := hrefused ⟨words, []⟩ (fun _ => hsome)
      rw [write_all_bytes] at hbytes
      exact funext hbytes
  · rintro (hpermitted | hnothing) memory hrefused addr
    · cases haccepts : self.accepts_write masked request with
      | false => simp [written_blocks, haccepts, write_all]
      | true => exact absurd hpermitted (hrefused haccepts)
    · have hmasks := (block_stores_masks_zero_iff _).mpr hnothing
      rw [write_all_bytes, MaskedStore.apply_all_of_masks_zero hmasks]

end

section

attribute [local instance] host.platform

/-- The first byte goes to unprotected memory and the second to a forbidden range. -/
def late_refusal : Request :=
  host.memory_request 2 (host.block_header 0x1000 1 ++ [0xAA] ++ host.block_header 0x2000 1 ++ [0xBB])

def guarded : MainHandler := (host.initialized 256 [⟨0x2000, 0x2FFF⟩] (by decide)).main

theorem refused_write_changes_memory :
    ¬ ∀ memory : Memory,
      (guarded.process_memory_control host.stack late_refusal host.response memory).1.1 ≠ .OK →
        ∀ addr,
          (guarded.process_memory_control host.stack late_refusal host.response memory).2.bytes
            addr = memory.bytes addr := by
  intro h
  have hbyte := h ⟨fun _ => 0, []⟩ (by decide +kernel) 0x1000
  revert hbyte
  decide +kernel

/-- The same with an empty mask for the first byte. -/
def late_refusal_masked : Request :=
  host.memory_request 3
    (host.block_header 0x1000 1 ++ [0xAA, 0x00] ++ host.block_header 0x2000 1 ++ [0xBB, 0xFF])

theorem refused_write_of_empty_mask :
    (guarded.written_blocks true late_refusal_masked).length = 1 ∧
      ∀ memory : Memory,
        (guarded.process_memory_control host.stack late_refusal_masked host.response
          memory).1.1 ≠ .OK →
        ∀ addr,
          (guarded.process_memory_control host.stack late_refusal_masked host.response
            memory).2.bytes addr = memory.bytes addr := by
  have hwrite : Subfunction.cast late_refusal_masked.subfunction_id =
      some (write_subfunction true) := by decide +kernel
  refine ⟨by decide +kernel, ?_⟩
  rw [refused_write_changes_nothing_iff hwrite]
  exact .inr (by decide +kernel)

end

end MainHandler

end scrutiny
