import Scrutiny.Datalogging.Sources
import Scrutiny.MemoryControl.Blocks

open foundation

namespace scrutiny

namespace codecs

variable {buffer other : ByteBuffer}

theorem decode_16_bits_congr (h : Buffer.SameBelow 2 buffer other) :
    decode_16_bits_big_endian_8bits buffer = decode_16_bits_big_endian_8bits other := by
  rw [decode_16_bits_big_endian_8bits, decode_16_bits_big_endian_8bits, h 0 (by decide),
    h 1 (by decide)]

theorem decode_32_bits_congr (h : Buffer.SameBelow 4 buffer other) :
    decode_32_bits_big_endian_8bits buffer = decode_32_bits_big_endian_8bits other := by
  rw [decode_32_bits_big_endian_8bits, decode_32_bits_big_endian_8bits, h 0 (by decide),
    h 1 (by decide), h 2 (by decide), h 3 (by decide)]

theorem decode_64_bits_congr (h : Buffer.SameBelow 8 buffer other) :
    decode_64_bits_big_endian_8bits buffer = decode_64_bits_big_endian_8bits other := by
  rw [decode_64_bits_big_endian_8bits, decode_64_bits_big_endian_8bits, h 0 (by decide),
    h 1 (by decide), h 2 (by decide), h 3 (by decide), h 4 (by decide), h 5 (by decide),
    h 6 (by decide), h 7 (by decide)]

theorem decode_address_congr [Platform] (h : Buffer.SameBelow Platform.addr_size buffer other) :
    decode_address_big_endian_8bits buffer = decode_address_big_endian_8bits other := by
  rw [decode_address_big_endian_8bits, decode_address_big_endian_8bits,
    h.slice_eq (Nat.zero_add _).le]

end codecs

namespace protocol

variable [Platform]

namespace ReadMemoryBlocksRequestParser

/-- Two parsers in the same state, over buffers that differ past the end of the request. -/
def Alike (self other : ReadMemoryBlocksRequestParser) : Prop :=
  ∃ buffer, other = { self with m_buffer := buffer } ∧
    Buffer.SameBelow self.m_request_datasize.toNat self.m_buffer buffer ∧
    self.m_bytes_read ≤ self.m_request_datasize

/-- The header of the block to come lies in the request. -/
theorem header_congr {self : ReadMemoryBlocksRequestParser} {buffer : ByteBuffer}
    (hbuffer : Buffer.SameBelow self.m_request_datasize.toNat self.m_buffer buffer)
    (hread : self.m_bytes_read ≤ self.m_request_datasize)
    (hroom : block_header_size ≤ (self.m_request_datasize - self.m_bytes_read).toNat) :
    next_address { self with m_buffer := buffer } = self.next_address ∧
      next_length { self with m_buffer := buffer } = self.next_length ∧
      self.length_position.toNat + 2 ≤ self.m_request_datasize.toNat := by
  have haddr := addr_size_le
  unfold block_header_size at hroom
  have hend : self.m_bytes_read.toNat + (Platform.addr_size + 2) ≤
      self.m_request_datasize.toNat := by
    bv_omega
  have hposition : self.length_position.toNat = self.m_bytes_read.toNat + Platform.addr_size := by
    unfold length_position
    bv_omega
  have haddress := hbuffer.shift self.m_bytes_read.toNat (m := Platform.addr_size) (by omega)
  have hlength := hbuffer.shift self.length_position.toNat (m := 2) (by omega)
  exact ⟨(codecs.decode_address_congr haddress).symm,
    (codecs.decode_16_bits_congr hlength).symm, by omega⟩

/-- The same block, over two buffers. -/
def SameBlock (block other : MemoryBlock8Bits) : Prop :=
  block.start_address = other.start_address ∧ block.length = other.length

theorem next_alike {self other : ReadMemoryBlocksRequestParser} (halike : Alike self other) :
    Alike self.next.1 other.next.1 ∧ Option.Rel SameBlock self.next.2 other.next.2 := by
  obtain ⟨buffer, rfl, hbuffer, hread⟩ := halike
  unfold next
  simp only
  split
  · exact ⟨⟨buffer, rfl, hbuffer, hread⟩, .none⟩
  · split
    · exact ⟨⟨buffer, rfl, hbuffer, hread⟩, .none⟩
    · rename_i hroom
      obtain ⟨haddress, hlength, hend⟩ := header_congr hbuffer hread (Nat.le_of_not_lt hroom)
      rw [haddress, hlength]
      split
      · refine ⟨⟨buffer, rfl, hbuffer, ?_⟩, .none⟩
        change self.length_position ≤ self.m_request_datasize
        bv_omega
      · refine ⟨⟨buffer, rfl, hbuffer, ?_⟩, .some ⟨rfl, rfl⟩⟩
        change self.length_position + 2 ≤ self.m_request_datasize
        bv_omega

theorem traverse_alike (fuel : Nat) {self other : ReadMemoryBlocksRequestParser}
    (halike : Alike self other) : Alike (traverse fuel self) (traverse fuel other) := by
  induction fuel generalizing self other with
  | zero => exact halike
  | succ fuel ih =>
    obtain ⟨hafter, hblock⟩ := next_alike halike
    rw [traverse, traverse]
    generalize self.next = next at hafter hblock
    generalize other.next = next' at hafter hblock
    obtain ⟨after, block⟩ := next
    obtain ⟨after', block'⟩ := next'
    cases hblock with
    | none => exact hafter
    | some hsame =>
      obtain ⟨buffer, rfl, hbuffer, hread⟩ := hafter
      simp only [hsame.2]
      split
      · exact ⟨buffer, rfl, hbuffer, hread⟩
      · exact ih ⟨buffer, rfl, hbuffer, hread⟩

theorem init_alike {request other : Request} (hlength : other.data_length = request.data_length)
    (hdata : Buffer.SameBelow request.data_length.toNat request.data other.data) :
    Alike (init request) (init other) := by
  have hstart : Alike ⟨request.data, 0, request.data_length, 0, false, false⟩
      ⟨other.data, 0, request.data_length, 0, false, false⟩ :=
    ⟨other.data, rfl, hdata, Nat.zero_le _⟩
  obtain ⟨buffer, hstate, hbuffer, _⟩ := traverse_alike (request.data_length.toNat + 1) hstart
  rw [init, init, hlength, hstate]
  exact ⟨buffer, rfl, hbuffer, Nat.zero_le _⟩

end ReadMemoryBlocksRequestParser

namespace WriteMemoryBlocksRequestParser

/-- Two parsers in the same state, over buffers that differ past the end of the request. -/
def Alike (self other : WriteMemoryBlocksRequestParser) : Prop :=
  ∃ buffer, other = { self with m_buffer := buffer } ∧
    Buffer.SameBelow self.m_size_limit.toNat self.m_buffer buffer ∧
    (self.m_invalid = false → self.m_bytes_read ≤ self.m_size_limit)

/-- Blocks with the same bytes, over two buffers. -/
structure SameBlock (block other : MemoryBlock8Bits) : Prop where
  start_address : block.start_address = other.start_address
  length : block.length = other.length
  source_data : Buffer.SameBelow block.length.toNat block.source_data other.source_data
  mask : Option.Rel (Buffer.SameBelow block.length.toNat) block.mask other.mask

/-- The header of the block to come lies in the request. -/
theorem header_congr {self : WriteMemoryBlocksRequestParser} {buffer : ByteBuffer}
    (hbuffer : Buffer.SameBelow self.m_size_limit.toNat self.m_buffer buffer)
    (hread : self.m_bytes_read ≤ self.m_size_limit)
    (hroom : block_header_size ≤ (self.m_size_limit - self.m_bytes_read).toNat) :
    next_address { self with m_buffer := buffer } = self.next_address ∧
      next_length { self with m_buffer := buffer } = self.next_length := by
  have haddr := addr_size_le
  have hdata := data_position_toNat hread hroom
  unfold block_header_size at hroom hdata
  have hend : self.m_bytes_read.toNat + (Platform.addr_size + 2) ≤ self.m_size_limit.toNat := by
    bv_omega
  have hposition : self.length_position.toNat = self.m_bytes_read.toNat + Platform.addr_size := by
    unfold length_position
    bv_omega
  have haddress := hbuffer.shift self.m_bytes_read.toNat (m := Platform.addr_size) (by omega)
  have hlength := hbuffer.shift self.length_position.toNat (m := 2) (by omega)
  exact ⟨(codecs.decode_address_congr haddress).symm, (codecs.decode_16_bits_congr hlength).symm⟩

theorem next_alike {self other : WriteMemoryBlocksRequestParser} (halike : Alike self other) :
    Alike self.next.1 other.next.1 ∧ Option.Rel SameBlock self.next.2 other.next.2 := by
  obtain ⟨buffer, rfl, hbuffer, hread⟩ := halike
  unfold next
  simp only
  split
  · exact ⟨⟨buffer, rfl, hbuffer, hread⟩, .none⟩
  · rename_i hopen
    simp only [Bool.or_eq_true, not_or, Bool.not_eq_true] at hopen
    have hinside := hread hopen.2
    split
    · exact ⟨⟨buffer, rfl, hbuffer, nofun⟩, .none⟩
    · rename_i hroom
      obtain ⟨haddress, hlength⟩ := header_congr hbuffer hinside (Nat.le_of_not_lt hroom)
      have hposition := data_position_toNat hinside (Nat.le_of_not_lt hroom)
      have hle : self.data_position ≤ self.m_size_limit := by bv_omega
      have hhalf := half_remaining_toNat hle
      have hdata : data_position { self with m_buffer := buffer } = self.data_position := rfl
      have hhalf_eq : half_remaining { self with m_buffer := buffer } = self.half_remaining := rfl
      rw [haddress, hlength, hdata, hhalf_eq]
      split
      · exact ⟨⟨buffer, rfl, hbuffer, nofun⟩, .none⟩
      · rename_i hfits
        split
        · exact ⟨⟨buffer, rfl, hbuffer, nofun⟩, .none⟩
        · rename_i hend
          have hsource := hbuffer.shift self.data_position.toNat (m := self.next_length.toNat)
            (by bv_omega)
          refine ⟨⟨buffer, rfl, hbuffer, fun _ => ?_⟩, .some ⟨rfl, rfl, hsource, ?_⟩⟩
          · cases hmasked : self.m_masked_write <;> simp [hmasked] at hfits ⊢ <;> bv_omega
          · cases hmasked : self.m_masked_write with
            | false => exact .none
            | true =>
              simp only [hmasked, true_and, not_or] at hfits
              exact .some (hbuffer.shift _ (by bv_omega))

theorem traverse_alike (fuel : Nat) {self other : WriteMemoryBlocksRequestParser}
    (halike : Alike self other) : Alike (traverse fuel self) (traverse fuel other) := by
  induction fuel generalizing self other with
  | zero => exact halike
  | succ fuel ih =>
    obtain ⟨hafter, hblock⟩ := next_alike halike
    rw [traverse, traverse]
    generalize self.next = next at hafter hblock
    generalize other.next = next' at hafter hblock
    obtain ⟨after, block⟩ := next
    obtain ⟨after', block'⟩ := next'
    cases hblock with
    | none => exact hafter
    | some hsame =>
      obtain ⟨buffer, rfl, hbuffer, hread⟩ := hafter
      simp only
      split
      · exact ⟨buffer, rfl, hbuffer, hread⟩
      · exact ih ⟨buffer, rfl, hbuffer, hread⟩

theorem init_alike {request other : Request} (hlength : other.data_length = request.data_length)
    (hdata : Buffer.SameBelow request.data_length.toNat request.data other.data)
    (masked_write : Bool) : Alike (init request masked_write) (init other masked_write) := by
  have hstart : Alike ⟨request.data, 0, request.data_length, 0, false, false, masked_write⟩
      ⟨other.data, 0, request.data_length, 0, false, false, masked_write⟩ :=
    ⟨other.data, rfl, hdata, fun _ => Nat.zero_le _⟩
  obtain ⟨buffer, hstate, hbuffer, _⟩ := traverse_alike (request.data_length.toNat + 1) hstart
  rw [init, init, hlength, hstate]
  exact ⟨buffer, rfl, hbuffer, fun _ => Nat.zero_le _⟩

end WriteMemoryBlocksRequestParser

namespace ReadRPVRequestParser

/-- Two parsers in the same state, over buffers that differ past the end of the request. -/
def Alike (self other : ReadRPVRequestParser) : Prop :=
  ∃ buffer, other = { self with m_buffer := buffer } ∧
    Buffer.SameBelow self.m_request_len.toNat self.m_buffer buffer

omit [Platform] in
theorem next_alike {self other : ReadRPVRequestParser} (halike : Alike self other) :
    Alike self.next.1 other.next.1 ∧ self.next.2 = other.next.2 := by
  obtain ⟨buffer, rfl, hbuffer⟩ := halike
  unfold next
  simp only
  split
  · exact ⟨⟨buffer, rfl, hbuffer⟩, rfl⟩
  · split
    · exact ⟨⟨buffer, rfl, hbuffer⟩, rfl⟩
    · rename_i hroom
      have hid := hbuffer.shift self.m_bytes_read.toNat (m := 2) (by omega)
      exact ⟨⟨buffer, rfl, hbuffer⟩, congrArg some (codecs.decode_16_bits_congr hid)⟩

end ReadRPVRequestParser

namespace WriteRPVRequestParser

/-- Two parsers in the same state, over buffers that differ past the end of the request. -/
def Alike (self other : WriteRPVRequestParser) : Prop :=
  ∃ buffer, other = { self with m_buffer := buffer } ∧
    Buffer.SameBelow self.m_request_len.toNat self.m_buffer buffer ∧
    self.m_bytes_read ≤ self.m_request_len

/-- A value of some size, over unions that may hold something else past it. -/
def SameMember (typesize : uint8_t) (v v' : AnyType) : Prop :=
  AgreeBelow (8 * typesize.toNat) v v'

omit [Platform] in
theorem decode_value_alike {buffer other : ByteBuffer} {typesize : uint8_t}
    (hbuffer : Buffer.SameBelow typesize.toNat buffer other) (v v' : AnyType) :
    Option.Rel (fun w w' => SameMember typesize w w' ∧ (v = v' → w = w'))
      (decode_value buffer typesize v) (decode_value other typesize v') := by
  unfold decode_value
  split
  · rename_i hsize
    subst hsize
    rw [hbuffer 0 (by decide)]
    exact .some ⟨AnyType.agreeBelow_set_uint8 v v' _, congrArg (AnyType.set_uint8 · _)⟩
  · split
    · rename_i hsize
      subst hsize
      rw [codecs.decode_16_bits_congr hbuffer]
      exact .some ⟨AnyType.agreeBelow_set_uint16 v v' _, congrArg (AnyType.set_uint16 · _)⟩
    · split
      · rename_i hsize
        subst hsize
        rw [codecs.decode_32_bits_congr hbuffer]
        exact .some ⟨AnyType.agreeBelow_set_uint32 v v' _, congrArg (AnyType.set_uint32 · _)⟩
      · split
        · rename_i hsize
          subst hsize
          rw [codecs.decode_64_bits_congr hbuffer]
          exact .some ⟨.refl _ _, fun _ => rfl⟩
        · exact .none

/-- The entries found over two buffers and two unions. -/
structure SameEntry (m_config : Config) (v v' : AnyType)
    (entry other : RuntimePublishedValue × AnyType) : Prop where
  published : entry.1 ∈ m_config.get_rpvs_array
  rpv : other.1 = entry.1
  member : SameMember (tools.get_type_size_8bits entry.1.type) entry.2 other.2
  value : v = v' → entry.2 = other.2

theorem next_alike {self other : WriteRPVRequestParser} (halike : Alike self other)
    (m_config : Config) (v v' : AnyType) :
    Alike (self.next m_config v).1 (other.next m_config v').1 ∧
      Option.Rel (SameEntry m_config v v') (self.next m_config v).2 (other.next m_config v').2 := by
  obtain ⟨buffer, rfl, hbuffer, hread⟩ := halike
  unfold next
  simp only
  split
  · exact ⟨⟨buffer, rfl, hbuffer, hread⟩, .none⟩
  · split
    · exact ⟨⟨buffer, rfl, hbuffer, hread⟩, .none⟩
    · rename_i hroom
      have hinside : self.m_bytes_read + 2 ≤ self.m_request_len := by bv_omega
      have hid := hbuffer.shift self.m_bytes_read.toNat (m := 2) (by bv_omega)
      rw [← codecs.decode_16_bits_congr hid]
      cases hfound : MainHandler.get_rpv m_config
          (codecs.decode_16_bits_big_endian_8bits
            (self.m_buffer.shift self.m_bytes_read.toNat)) with
      | none => exact ⟨⟨buffer, rfl, hbuffer, hinside⟩, .none⟩
      | some rpv =>
        simp only
        split
        · exact ⟨⟨buffer, rfl, hbuffer, hinside⟩, .none⟩
        · rename_i hfits
          have hvalue := hbuffer.shift (self.m_bytes_read + 2).toNat
            (m := (tools.get_type_size_8bits rpv.type).toNat) (by bv_omega)
          refine ⟨⟨buffer, rfl, hbuffer, ?_⟩, ?_⟩
          · change self.m_bytes_read + 2 + (tools.get_type_size_8bits rpv.type).setWidth 16 ≤
              self.m_request_len
            bv_omega
          · have hdecoded := decode_value_alike hvalue v v'
            generalize decode_value (self.m_buffer.shift (self.m_bytes_read + 2).toNat)
              (tools.get_type_size_8bits rpv.type) v = decoded at hdecoded ⊢
            generalize decode_value (buffer.shift (self.m_bytes_read + 2).toNat)
              (tools.get_type_size_8bits rpv.type) v' = decoded' at hdecoded ⊢
            cases hdecoded with
            | none => exact .none
            | some hsame => exact .some ⟨List.mem_of_find?_eq_some hfound, rfl, hsame.1, hsame.2⟩

end WriteRPVRequestParser

end protocol

end scrutiny
