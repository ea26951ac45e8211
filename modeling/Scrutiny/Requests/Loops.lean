import Scrutiny.Foundation.Loop
import Scrutiny.Datalogging.Ring
import Scrutiny.MemoryControl.Blocks
import Scrutiny.MemoryControl.RoundTrip

open foundation

namespace scrutiny

open datalogging protocol

variable [Platform]

namespace protocol

namespace ReadMemoryBlocksRequestParser

def unread (self : ReadMemoryBlocksRequestParser) : Nat :=
  self.m_request_datasize.toNat - self.m_bytes_read.toNat

/-- The header of a block that is given lies in the request. -/
theorem next_advances {self after : ReadMemoryBlocksRequestParser} {block : MemoryBlock8Bits}
    (hnext : self.next = (after, some block))
    (hread : self.m_bytes_read ≤ self.m_request_datasize) :
    after.m_bytes_read ≤ after.m_request_datasize ∧ after.unread < self.unread := by
  have haddr := addr_size_le
  unfold next at hnext
  split at hnext
  · simp at hnext
  · split at hnext
    · simp at hnext
    · rename_i hroom
      split at hnext
      · simp at hnext
      · obtain ⟨rfl, -⟩ := Prod.mk.inj hnext
        simp only [unread, length_position, block_header_size] at hroom ⊢
        constructor <;> bv_omega

/-- One turn of `traverse`. -/
def traverse_turn (self : ReadMemoryBlocksRequestParser) :
    ReadMemoryBlocksRequestParser ⊕ ReadMemoryBlocksRequestParser :=
  match self.next with
  | (self, none) => .inl self
  | (self, some block) =>
    if self.m_invalid || self.m_finished then .inl self
    else
      .inr (self.set_required (self.m_required_tx_buffer_size +
        BitVec.ofNat 16 (block_header_size + block.length.toNat)))

theorem traverse_succ (fuel : Nat) (self : ReadMemoryBlocksRequestParser) :
    traverse (fuel + 1) self = (traverse_turn self).elim id (traverse fuel) := by
  rw [traverse, traverse_turn]
  generalize self.next = next
  obtain ⟨after, _ | block⟩ := next
  · rfl
  · simp only
    split
    · rfl
    · rfl

theorem traverse_ends {fuel : Nat} {self : ReadMemoryBlocksRequestParser}
    (hread : self.m_bytes_read ≤ self.m_request_datasize) (hfuel : self.unread < fuel) :
    Ends traverse_turn self (traverse fuel self) := by
  refine Ends.of_bounded traverse traverse_succ (m := unread)
    (P := fun self => self.m_bytes_read ≤ self.m_request_datasize) ?_ hread hfuel
  intro self next hread hturn
  unfold traverse_turn at hturn
  cases hnext : self.next with
  | mk after block =>
    rw [hnext] at hturn
    cases block with
    | none => cases hturn
    | some block =>
      simp only at hturn
      split at hturn
      · cases hturn
      · cases hturn
        have hadvances := next_advances hnext hread
        exact hadvances

theorem next_request_datasize (self : ReadMemoryBlocksRequestParser) :
    self.next.1.m_request_datasize = self.m_request_datasize := by
  unfold next
  split
  · rfl
  · split
    · rfl
    · split
      · rfl
      · rfl

theorem traverse_request_datasize (fuel : Nat) (self : ReadMemoryBlocksRequestParser) :
    (traverse fuel self).m_request_datasize = self.m_request_datasize := by
  induction fuel generalizing self with
  | zero => rfl
  | succ fuel ih =>
    have hnext := next_request_datasize self
    rw [traverse]
    generalize self.next = next at hnext
    obtain ⟨after, _ | block⟩ := next
    · exact hnext
    · simp only
      split
      · exact hnext
      · exact (ih _).trans hnext

theorem unread_init (request : Request) :
    (init request).unread = request.data_length.toNat := by
  rw [unread, init, traverse_request_datasize]
  rfl

end ReadMemoryBlocksRequestParser

namespace WriteMemoryBlocksRequestParser

/-- One turn of `traverse`. -/
def traverse_turn (self : WriteMemoryBlocksRequestParser) :
    WriteMemoryBlocksRequestParser ⊕ WriteMemoryBlocksRequestParser :=
  match self.next with
  | (self, none) => .inl self
  | (self, some _) =>
    if self.m_invalid || self.m_finished then .inl self
    else
      .inr (self.set_required (self.m_required_tx_buffer_size + BitVec.ofNat 16 block_header_size))

theorem traverse_succ (fuel : Nat) (self : WriteMemoryBlocksRequestParser) :
    traverse (fuel + 1) self = (traverse_turn self).elim id (traverse fuel) := by
  rw [traverse, traverse_turn]
  generalize self.next = next
  obtain ⟨after, _ | block⟩ := next
  · rfl
  · simp only
    split
    · rfl
    · rfl

theorem Advances.unread_lt {before after : WriteMemoryBlocksRequestParser}
    (h : Advances before after) : after.unread < before.unread := by
  have hle := h.unread_le
  have hsize := block_header_size_bounds.1
  omega

theorem traverse_ends {fuel : Nat} {self : WriteMemoryBlocksRequestParser}
    (hread : self.m_bytes_read ≤ self.m_size_limit) (hfuel : self.unread < fuel) :
    Ends traverse_turn self (traverse fuel self) := by
  refine Ends.of_bounded traverse traverse_succ (m := unread)
    (P := fun self => self.m_bytes_read ≤ self.m_size_limit) ?_ hread hfuel
  intro self next hread hturn
  unfold traverse_turn at hturn
  cases hnext : self.next with
  | mk after block =>
    rw [hnext] at hturn
    cases block with
    | none => cases hturn
    | some block =>
      simp only at hturn
      split at hturn
      · cases hturn
      · cases hturn
        have hadvances := next_some hnext hread
        exact ⟨hadvances.in_request, hadvances.unread_lt⟩

theorem next_size_limit (self : WriteMemoryBlocksRequestParser) :
    self.next.1.m_size_limit = self.m_size_limit := by
  unfold next
  split
  · rfl
  · split
    · rfl
    · split
      · rfl
      · simp only
        split
        · rfl
        · rfl

theorem traverse_size_limit (fuel : Nat) (self : WriteMemoryBlocksRequestParser) :
    (traverse fuel self).m_size_limit = self.m_size_limit := by
  induction fuel generalizing self with
  | zero => rfl
  | succ fuel ih =>
    have hnext := next_size_limit self
    rw [traverse]
    generalize self.next = next at hnext
    obtain ⟨after, _ | block⟩ := next
    · exact hnext
    · simp only
      split
      · exact hnext
      · exact (ih _).trans hnext

theorem unread_init (request : Request) (masked_write : Bool) :
    (init request masked_write).unread = request.data_length.toNat := by
  rw [unread, init, traverse_size_limit]
  rfl

end WriteMemoryBlocksRequestParser

namespace ReadRPVRequestParser

def unread (self : ReadRPVRequestParser) : Nat :=
  self.m_request_len.toNat - self.m_bytes_read.toNat

omit [Platform] in
theorem next_advances {self after : ReadRPVRequestParser} {id : uint16_t}
    (hnext : self.next = (after, some id)) : after.unread < self.unread := by
  have hlengths := congrArg List.length (next_some hnext).1
  simp only [rest, Buffer.length_slice, List.length_append, codecs.length_encode_16_bits]
    at hlengths
  unfold unread
  omega

end ReadRPVRequestParser

namespace WriteRPVRequestParser

def unread (self : WriteRPVRequestParser) : Nat :=
  self.m_request_len.toNat - self.m_bytes_read.toNat

/-- An entry is passed, also when it is skipped for the size of its value. -/
theorem next_advances {self after : WriteRPVRequestParser} {m_config : Config} {v : AnyType}
    {entry : Option (RuntimePublishedValue × AnyType)}
    (hnext : self.next m_config v = (after, entry)) (hopen : self.m_finished = false)
    (hvalid : after.m_invalid = false) (hread : self.m_bytes_read ≤ self.m_request_len) :
    after.m_bytes_read ≤ after.m_request_len ∧ after.unread < self.unread := by
  unfold next at hnext
  split at hnext
  · rename_i hclosed
    obtain ⟨rfl, -⟩ := Prod.mk.inj hnext
    simp [hopen, hvalid] at hclosed
  · split at hnext
    · obtain ⟨rfl, -⟩ := Prod.mk.inj hnext
      cases hvalid
    · rename_i hroom
      simp only at hnext
      split at hnext
      · obtain ⟨rfl, -⟩ := Prod.mk.inj hnext
        cases hvalid
      · split at hnext
        · obtain ⟨rfl, -⟩ := Prod.mk.inj hnext
          cases hvalid
        · rename_i rpv hfound hfits
          obtain ⟨rfl, -⟩ := Prod.mk.inj hnext
          simp only [unread]
          constructor <;> bv_omega

end WriteRPVRequestParser

end protocol

namespace MainHandler

/-- The result of a memory command. -/
abbrev Outcome := (ResponseCode × Response) × Memory

/-- What the loop of a memory command goes on with. -/
abbrev LoopState (Parser : Type) := Parser × ResponseEncoderBase × Memory

/-- One turn of `read_blocks`. -/
def read_blocks_turn (m_config : Config) :
    LoopState ReadMemoryBlocksRequestParser → Outcome ⊕ LoopState ReadMemoryBlocksRequestParser
  | (parser, encoder, memory) =>
    if parser.m_finished then .inl ((.OK, encoder.m_response), memory)
    else
      match parser.next with
      | (_, none) => .inl ((.InvalidRequest, encoder.m_response), memory)
      | (parser, some block) =>
        if block_touches_forbidden_region m_config block then
          .inl ((.Forbidden, encoder.m_response), memory)
        else
          let (encoder, memory) := ReadMemoryBlocksResponseEncoder.write encoder block memory
          if encoder.overflow then .inl ((.Overflow, encoder.m_response), memory)
          else .inr (parser, encoder, memory)

theorem read_blocks_succ (m_config : Config) (fuel : Nat)
    (s : LoopState ReadMemoryBlocksRequestParser) :
    read_blocks m_config (fuel + 1) s.1 s.2.1 s.2.2 =
      (read_blocks_turn m_config s).elim id fun s => read_blocks m_config fuel s.1 s.2.1 s.2.2 := by
  obtain ⟨parser, encoder, memory⟩ := s
  rw [read_blocks, read_blocks_turn]
  split
  · rfl
  · generalize parser.next = next
    obtain ⟨after, _ | block⟩ := next
    · rfl
    · simp only
      split
      · rfl
      · split
        · rfl
        · rfl

theorem read_blocks_turn_advances {m_config : Config}
    {s s' : LoopState ReadMemoryBlocksRequestParser}
    (hread : s.1.m_bytes_read ≤ s.1.m_request_datasize)
    (hturn : read_blocks_turn m_config s = .inr s') :
    s'.1.m_bytes_read ≤ s'.1.m_request_datasize ∧ s'.1.unread < s.1.unread := by
  obtain ⟨parser, encoder, memory⟩ := s
  rw [read_blocks_turn] at hturn
  split at hturn
  · cases hturn
  · cases hnext : parser.next with
    | mk after block =>
      rw [hnext] at hturn
      cases block with
      | none => cases hturn
      | some block =>
        simp only at hturn
        split at hturn
        · cases hturn
        · split at hturn
          · cases hturn
          · cases hturn
            exact ReadMemoryBlocksRequestParser.next_advances hnext hread

theorem read_blocks_ends (m_config : Config) {fuel : Nat} {parser : ReadMemoryBlocksRequestParser}
    (hread : parser.m_bytes_read ≤ parser.m_request_datasize) (hfuel : parser.unread < fuel)
    (encoder : ResponseEncoderBase) (memory : Memory) :
    Ends (read_blocks_turn m_config) (parser, encoder, memory)
      (read_blocks m_config fuel parser encoder memory) :=
  let loop (fuel : Nat) (s : LoopState ReadMemoryBlocksRequestParser) : Outcome :=
    read_blocks m_config fuel s.1 s.2.1 s.2.2
  Ends.of_bounded loop (read_blocks_succ m_config) (P := fun s => s.1.m_bytes_read ≤ s.1.m_request_datasize)
    (m := fun s => s.1.unread) read_blocks_turn_advances hread hfuel

/-- One turn of `write_blocks`. -/
def write_blocks_turn (m_config : Config) :
    LoopState WriteMemoryBlocksRequestParser → Outcome ⊕ LoopState WriteMemoryBlocksRequestParser
  | (parser, encoder, memory) =>
    if parser.m_finished then .inl ((.OK, encoder.m_response), memory)
    else
      match parser.next with
      | (_, none) => .inl ((.InvalidRequest, encoder.m_response), memory)
      | (parser, some block) =>
        if block_touches_forbidden_region m_config block then
          .inl ((.Forbidden, encoder.m_response), memory)
        else if block_touches_readonly_region m_config block then
          .inl ((.Forbidden, encoder.m_response), memory)
        else
          .inr (parser, WriteMemoryBlocksResponseEncoder.write encoder block,
            write_block block memory)

theorem write_blocks_succ (m_config : Config) (fuel : Nat)
    (s : LoopState WriteMemoryBlocksRequestParser) :
    write_blocks m_config (fuel + 1) s.1 s.2.1 s.2.2 =
      (write_blocks_turn m_config s).elim id
        fun s => write_blocks m_config fuel s.1 s.2.1 s.2.2 := by
  obtain ⟨parser, encoder, memory⟩ := s
  rw [write_blocks, write_blocks_turn]
  split
  · rfl
  · generalize parser.next = next
    obtain ⟨after, _ | block⟩ := next
    · rfl
    · simp only
      split
      · rfl
      · split
        · rfl
        · rfl

theorem write_blocks_turn_advances {m_config : Config}
    {s s' : LoopState WriteMemoryBlocksRequestParser}
    (hread : s.1.m_bytes_read ≤ s.1.m_size_limit)
    (hturn : write_blocks_turn m_config s = .inr s') :
    s'.1.m_bytes_read ≤ s'.1.m_size_limit ∧ s'.1.unread < s.1.unread := by
  obtain ⟨parser, encoder, memory⟩ := s
  rw [write_blocks_turn] at hturn
  split at hturn
  · cases hturn
  · cases hnext : parser.next with
    | mk after block =>
      rw [hnext] at hturn
      cases block with
      | none => cases hturn
      | some block =>
        simp only at hturn
        split at hturn
        · cases hturn
        · split at hturn
          · cases hturn
          · cases hturn
            have hadvances := WriteMemoryBlocksRequestParser.next_some hnext hread
            exact ⟨hadvances.in_request, hadvances.unread_lt⟩

theorem write_blocks_ends (m_config : Config) {fuel : Nat}
    {parser : WriteMemoryBlocksRequestParser} (hread : parser.m_bytes_read ≤ parser.m_size_limit)
    (hfuel : parser.unread < fuel) (encoder : ResponseEncoderBase) (memory : Memory) :
    Ends (write_blocks_turn m_config) (parser, encoder, memory)
      (write_blocks m_config fuel parser encoder memory) :=
  let loop (fuel : Nat) (s : LoopState WriteMemoryBlocksRequestParser) : Outcome :=
    write_blocks m_config fuel s.1 s.2.1 s.2.2
  Ends.of_bounded loop (write_blocks_succ m_config) (P := fun s => s.1.m_bytes_read ≤ s.1.m_size_limit)
    (m := fun s => s.1.unread) write_blocks_turn_advances hread hfuel

/-- One turn of `read_rpvs`. -/
def read_rpvs_turn (m_config : Config) :
    LoopState ReadRPVRequestParser → Outcome ⊕ LoopState ReadRPVRequestParser
  | (parser, encoder, memory) =>
    if parser.m_finished then .inl ((.OK, encoder.m_response), memory)
    else
      match parser.next with
      | (_, none) => .inl ((.InvalidRequest, encoder.m_response), memory)
      | (parser, some id) =>
        match get_rpv m_config id with
        | none => .inl ((.FailureToProceed, encoder.m_response), memory)
        | some rpv =>
          let ((success, v), memory) := read_rpv m_config rpv none memory
          if success = false then .inl ((.FailureToProceed, encoder.m_response), memory)
          else
            let encoder := ReadRPVResponseEncoder.write encoder rpv v
            if encoder.overflow then .inl ((.Overflow, encoder.m_response), memory)
            else .inr (parser, encoder, memory)

theorem read_rpvs_succ (m_config : Config) (fuel : Nat)
    (s : LoopState ReadRPVRequestParser) :
    read_rpvs m_config (fuel + 1) s.1 s.2.1 s.2.2 =
      (read_rpvs_turn m_config s).elim id fun s => read_rpvs m_config fuel s.1 s.2.1 s.2.2 := by
  obtain ⟨parser, encoder, memory⟩ := s
  rw [read_rpvs, read_rpvs_turn]
  split
  · rfl
  · generalize parser.next = next
    obtain ⟨after, _ | rpv_id⟩ := next
    · rfl
    · cases hfound : get_rpv m_config rpv_id with
      | none => simp only [hfound, Sum.elim_inl, id]
      | some rpv =>
        simp only [hfound]
        split
        · rfl
        · split
          · rfl
          · rfl

theorem read_rpvs_turn_advances {m_config : Config}
    {s s' : LoopState ReadRPVRequestParser}
    (hturn : read_rpvs_turn m_config s = .inr s') : s'.1.unread < s.1.unread := by
  obtain ⟨parser, encoder, memory⟩ := s
  rw [read_rpvs_turn] at hturn
  split at hturn
  · cases hturn
  · cases hnext : parser.next with
    | mk after id =>
      rw [hnext] at hturn
      cases id with
      | none => cases hturn
      | some id =>
        cases hfound : get_rpv m_config id with
        | none => simp [hfound] at hturn
        | some rpv =>
          simp only [hfound] at hturn
          split at hturn
          · cases hturn
          · split at hturn
            · cases hturn
            · cases hturn
              exact ReadRPVRequestParser.next_advances hnext

theorem read_rpvs_ends (m_config : Config) {fuel : Nat} {parser : ReadRPVRequestParser}
    (hfuel : parser.unread < fuel) (encoder : ResponseEncoderBase) (memory : Memory) :
    Ends (read_rpvs_turn m_config) (parser, encoder, memory)
      (read_rpvs m_config fuel parser encoder memory) :=
  let loop (fuel : Nat) (s : LoopState ReadRPVRequestParser) : Outcome :=
    read_rpvs m_config fuel s.1 s.2.1 s.2.2
  Ends.of_bounded loop (read_rpvs_succ m_config) (P := fun _ => True) (m := fun s => s.1.unread)
    (fun _ hturn => ⟨trivial, read_rpvs_turn_advances hturn⟩) trivial hfuel

/-- One turn of `write_rpvs`. -/
def write_rpvs_turn (m_config : Config) :
    LoopState (WriteRPVRequestParser × AnyType) →
      Outcome ⊕ LoopState (WriteRPVRequestParser × AnyType)
  | ((parser, v), encoder, memory) =>
    if parser.m_finished then .inl ((.OK, encoder.m_response), memory)
    else
      let (parser, entry) := parser.next m_config v
      if parser.m_invalid then .inl ((.InvalidRequest, encoder.m_response), memory)
      else
        match entry with
        | none => .inr ((parser, v), encoder, memory)
        | some (rpv, v) =>
          let (success, memory) := write_rpv m_config rpv v none memory
          if success = false then .inl ((.FailureToProceed, encoder.m_response), memory)
          else
            let encoder := WriteRPVResponseEncoder.write encoder rpv
            if encoder.overflow then .inl ((.Overflow, encoder.m_response), memory)
            else .inr ((parser, v), encoder, memory)

theorem write_rpvs_succ (m_config : Config) (fuel : Nat)
    (s : LoopState (WriteRPVRequestParser × AnyType)) :
    write_rpvs m_config (fuel + 1) s.1.1 s.1.2 s.2.1 s.2.2 =
      (write_rpvs_turn m_config s).elim id
        fun s => write_rpvs m_config fuel s.1.1 s.1.2 s.2.1 s.2.2 := by
  obtain ⟨⟨parser, v⟩, encoder, memory⟩ := s
  rw [write_rpvs, write_rpvs_turn]
  split
  · rfl
  · generalize parser.next m_config v = next
    obtain ⟨after, entry⟩ := next
    simp only
    split
    · rfl
    · cases entry with
      | none => rfl
      | some entry =>
        simp only
        split
        · rfl
        · split
          · rfl
          · rfl

theorem write_rpvs_turn_advances {m_config : Config}
    {s s' : LoopState (WriteRPVRequestParser × AnyType)}
    (hread : s.1.1.m_bytes_read ≤ s.1.1.m_request_len)
    (hturn : write_rpvs_turn m_config s = .inr s') :
    s'.1.1.m_bytes_read ≤ s'.1.1.m_request_len ∧ s'.1.1.unread < s.1.1.unread := by
  obtain ⟨⟨parser, v⟩, encoder, memory⟩ := s
  rw [write_rpvs_turn] at hturn
  split at hturn
  · cases hturn
  · rename_i hopen
    cases hnext : parser.next m_config v with
    | mk after entry =>
      rw [hnext] at hturn
      simp only at hturn
      split at hturn
      · cases hturn
      · rename_i hvalid
        have hadvances := WriteRPVRequestParser.next_advances hnext
          (Bool.eq_false_of_not_eq_true hopen) (Bool.eq_false_of_not_eq_true hvalid) hread
        cases entry with
        | none =>
          cases hturn
          exact hadvances
        | some entry =>
          simp only at hturn
          split at hturn
          · cases hturn
          · split at hturn
            · cases hturn
            · cases hturn
              exact hadvances

theorem write_rpvs_ends (m_config : Config) {fuel : Nat} {parser : WriteRPVRequestParser}
    (hread : parser.m_bytes_read ≤ parser.m_request_len) (hfuel : parser.unread < fuel)
    (v : AnyType) (encoder : ResponseEncoderBase) (memory : Memory) :
    Ends (write_rpvs_turn m_config) ((parser, v), encoder, memory)
      (write_rpvs m_config fuel parser v encoder memory) :=
  let loop (fuel : Nat) (s : LoopState (WriteRPVRequestParser × AnyType)) : Outcome :=
    write_rpvs m_config fuel s.1.1 s.1.2 s.2.1 s.2.2
  Ends.of_bounded loop (write_rpvs_succ m_config)
    (P := fun s => s.1.1.m_bytes_read ≤ s.1.1.m_request_len) (m := fun s => s.1.1.unread)
    write_rpvs_turn_advances hread hfuel

end MainHandler

namespace datalogging.RawFormatReader

/-- The bytes sent at a turn of the loop of `read_dilate_8bits`: those up to the write
cursor, or up to the end of the buffer. -/
def transfer_size (write_cursor buffer_end max_size_8bits : Nat) (self : RawFormatReader)
    (output : List uint8_t) : Nat :=
  let new_max_8bits := max_size_8bits - output.length
  let right_hand_start_point :=
    if write_cursor > self.m_read_cursor then write_cursor else buffer_end
  let available := buffer_size_sub right_hand_start_point self.m_read_cursor
  if available < new_max_8bits then available else new_max_8bits

/-- The cursor after a transfer. -/
def moved (write_cursor buffer_end read_cursor transfer_size_8bits : Nat) : Nat :=
  let cursor := buffer_size (read_cursor + transfer_size_8bits)
  if cursor > write_cursor ∧ cursor ≥ buffer_end then buffer_size_sub cursor buffer_end
  else cursor

/-- One turn of that loop. -/
def read_loop_turn (encoder : RawFormatEncoder) (write_cursor buffer_end max_size_8bits : Nat) :
    RawFormatReader × List uint8_t →
      RawFormatReader × List uint8_t ⊕ RawFormatReader × List uint8_t
  | (self, output) =>
    if output.length < max_size_8bits then
      let transfer := transfer_size write_cursor buffer_end max_size_8bits self output
      let output := output ++ encoder.content.slice self.m_read_cursor transfer
      let self := { self with
        m_read_cursor := moved write_cursor buffer_end self.m_read_cursor transfer
        m_read_started := true }
      if self.m_read_cursor = write_cursor then .inl ({ self with m_finished := true }, output)
      else .inr (self, output)
    else .inl (self, output)

theorem read_loop_succ (encoder : RawFormatEncoder)
    (write_cursor buffer_end max_size_8bits fuel : Nat) (s : RawFormatReader × List uint8_t) :
    read_loop encoder write_cursor buffer_end max_size_8bits (fuel + 1) s.1 s.2 =
      (read_loop_turn encoder write_cursor buffer_end max_size_8bits s).elim id
        fun s => read_loop encoder write_cursor buffer_end max_size_8bits fuel s.1 s.2 := by
  obtain ⟨self, output⟩ := s
  rw [read_loop, read_loop_turn]
  split
  · simp only [apply_ite (Sum.elim id _), Sum.elim_inl, Sum.elim_inr]
    rfl
  · rfl

theorem moved_lt (write_cursor buffer_end read_cursor transfer : Nat) :
    moved write_cursor buffer_end read_cursor transfer < 2 ^ Platform.buffer_size_bits := by
  unfold moved
  simp only
  split
  · exact Nat.mod_lt _ (Nat.two_pow_pos _)
  · exact Nat.mod_lt _ (Nat.two_pow_pos _)

/-- All that lies before the write cursor takes the reader there. -/
theorem moved_to_write {write_cursor read_cursor : Nat} (buffer_end : Nat)
    (hwrite : write_cursor < 2 ^ Platform.buffer_size_bits) (hless : read_cursor < write_cursor) :
    moved write_cursor buffer_end read_cursor (buffer_size_sub write_cursor read_cursor) =
      write_cursor := by
  have hcursor : buffer_size (read_cursor + (write_cursor - read_cursor)) = write_cursor := by
    rw [Nat.add_sub_cancel' hless.le, buffer_size_of_lt hwrite]
  rw [buffer_size_sub_of_le hless.le hwrite, moved]
  simp only [hcursor, gt_iff_lt, lt_irrefl, false_and, if_false]

/-- All that lies before the end of the buffer takes the reader there, or to the start. -/
theorem moved_to_end {write_cursor buffer_end read_cursor : Nat}
    (hend : buffer_end < 2 ^ Platform.buffer_size_bits)
    (hread : read_cursor < 2 ^ Platform.buffer_size_bits) :
    moved write_cursor buffer_end read_cursor (buffer_size_sub buffer_end read_cursor) =
      if buffer_end > write_cursor then 0 else buffer_end := by
  have hcursor : buffer_size (read_cursor + buffer_size_sub buffer_end read_cursor) =
      buffer_end := by
    rw [buffer_size_sub, buffer_size, buffer_size, Nat.add_mod_mod,
      show read_cursor + (buffer_end + 2 ^ Platform.buffer_size_bits - read_cursor) =
        buffer_end + 2 ^ Platform.buffer_size_bits by omega,
      Nat.add_mod_right, Nat.mod_eq_of_lt hend]
  have hwrap : buffer_size_sub buffer_end buffer_end = 0 := by
    rw [buffer_size_sub_of_le (Nat.le_refl _) hend, Nat.sub_self]
  rw [moved]
  simp only [hcursor, hwrap, ge_iff_le, le_refl, and_true]

/-- A transfer fills the output or sends all that is available. -/
theorem transfer_size_cases (write_cursor buffer_end max_size_8bits : Nat) (self : RawFormatReader)
    (output : List uint8_t) :
    transfer_size write_cursor buffer_end max_size_8bits self output =
        max_size_8bits - output.length ∨
      transfer_size write_cursor buffer_end max_size_8bits self output = buffer_size_sub
        (if write_cursor > self.m_read_cursor then write_cursor else buffer_end)
        self.m_read_cursor := by
  unfold transfer_size
  exact (ite_eq_or_eq _ _ _).symm

/-- When all that is available was sent, the reader is at the write cursor or before it. -/
theorem moved_before {write_cursor buffer_end read_cursor : Nat}
    (hwrite : write_cursor < 2 ^ Platform.buffer_size_bits)
    (hend : buffer_end < 2 ^ Platform.buffer_size_bits)
    (hread : read_cursor < 2 ^ Platform.buffer_size_bits) {transfer : Nat}
    (htransfer : transfer = buffer_size_sub
      (if write_cursor > read_cursor then write_cursor else buffer_end) read_cursor)
    (hopen : moved write_cursor buffer_end read_cursor transfer ≠ write_cursor) :
    write_cursor ≤ read_cursor ∧
      moved write_cursor buffer_end read_cursor transfer < write_cursor := by
  by_cases hbefore : write_cursor > read_cursor
  · rw [htransfer, if_pos hbefore] at hopen
    exact absurd (moved_to_write buffer_end hwrite hbefore) hopen
  · rw [if_neg hbefore] at htransfer
    rw [htransfer, moved_to_end hend hread] at hopen ⊢
    refine ⟨Nat.le_of_not_lt hbefore, ?_⟩
    split at hopen
    · rename_i hwrap
      rw [if_pos hwrap]
      omega
    · rename_i hwrap
      rw [if_neg hwrap]
      omega

/-- A bound on the turns left before the check that leaves the loop. -/
def turns_left (write_cursor max_size_8bits : Nat) (s : RawFormatReader × List uint8_t) : Nat :=
  if max_size_8bits ≤ s.2.length then 0
  else if s.1.m_read_cursor < write_cursor then 1
  else if s.1.m_read_cursor < 2 ^ Platform.buffer_size_bits then 2
  else 3

theorem turns_left_le (write_cursor max_size_8bits : Nat) (s : RawFormatReader × List uint8_t) :
    turns_left write_cursor max_size_8bits s ≤ 3 := by
  unfold turns_left
  split
  · omega
  · split
    · omega
    · split <;> omega

theorem read_loop_turn_advances {encoder : RawFormatEncoder}
    {write_cursor buffer_end max_size_8bits : Nat}
    (hwrite : write_cursor < 2 ^ Platform.buffer_size_bits)
    (hend : buffer_end < 2 ^ Platform.buffer_size_bits) {s s' : RawFormatReader × List uint8_t}
    (hturn : read_loop_turn encoder write_cursor buffer_end max_size_8bits s = .inr s') :
    turns_left write_cursor max_size_8bits s' < turns_left write_cursor max_size_8bits s := by
  obtain ⟨self, output⟩ := s
  rw [read_loop_turn] at hturn
  split at hturn
  · rename_i hroom
    simp only at hturn
    split at hturn
    · cases hturn
    · rename_i hopen
      cases hturn
      have hlt := moved_lt write_cursor buffer_end self.m_read_cursor
        (transfer_size write_cursor buffer_end max_size_8bits self output)
      obtain hfull | havailable := transfer_size_cases write_cursor buffer_end max_size_8bits self
        output
      · unfold turns_left
        simp only [List.length_append, Buffer.length_slice, hfull, hroom.not_ge, if_false]
        rw [if_pos (by omega)]
        split
        · exact Nat.one_pos
        · split <;> omega
      · by_cases hread : self.m_read_cursor < 2 ^ Platform.buffer_size_bits
        · obtain ⟨hpast, hbefore⟩ := moved_before hwrite hend hread havailable hopen
          unfold turns_left
          simp only [hbefore, hread, hroom.not_ge, hpast.not_gt, if_true, if_false]
          split <;> omega
        · unfold turns_left
          have hpast : ¬self.m_read_cursor < write_cursor := by omega
          simp only [hlt, hread, hpast, hroom.not_ge, if_true, if_false]
          split
          · omega
          · split <;> omega
  · cases hturn

theorem read_loop_ends (encoder : RawFormatEncoder) {write_cursor buffer_end max_size_8bits : Nat}
    (hwrite : write_cursor < 2 ^ Platform.buffer_size_bits)
    (hend : buffer_end < 2 ^ Platform.buffer_size_bits) (hmax : 3 ≤ max_size_8bits)
    (self : RawFormatReader) (output : List uint8_t) :
    Ends (read_loop_turn encoder write_cursor buffer_end max_size_8bits) (self, output)
      (read_loop encoder write_cursor buffer_end max_size_8bits (max_size_8bits + 1) self
        output) := by
  let loop (fuel : Nat) (s : RawFormatReader × List uint8_t) : RawFormatReader × List uint8_t :=
    read_loop encoder write_cursor buffer_end max_size_8bits fuel s.1 s.2
  have hleft := turns_left_le write_cursor max_size_8bits (self, output)
  exact Ends.of_bounded loop (read_loop_succ encoder write_cursor buffer_end max_size_8bits)
    (P := fun _ => True) (m := turns_left write_cursor max_size_8bits)
    (fun _ hturn => ⟨trivial, read_loop_turn_advances hwrite hend hturn⟩) trivial (by omega)

end datalogging.RawFormatReader

end scrutiny
