import Scrutiny.MainHandler.Process
import Scrutiny.Requests.Parsers

open foundation

namespace scrutiny

open datalogging

section

variable [Platform]

namespace protocol

/-- Two requests that differ only past the end of their payload. -/
structure Request.Alike (request other : Request) : Prop where
  command_id : other.command_id = request.command_id
  subfunction_id : other.subfunction_id = request.subfunction_id
  data_length : other.data_length = request.data_length
  data : Buffer.SameBelow request.data_length.toNat request.data other.data

variable {request other : Request}

omit [Platform] in
theorem Request.Alike.payload_eq (h : Request.Alike request other) :
    other.payload = request.payload := by
  rw [Request.payload, Request.payload, h.data_length]
  exact (h.data.slice_eq (Nat.zero_add _).le).symm

namespace CodecV1_0

omit [Platform]

theorem decode_special_memory_region_congr (h : Request.Alike request other) :
    decode_request_get_special_memory_region_location other =
      decode_request_get_special_memory_region_location request := by
  rw [decode_request_get_special_memory_region_location,
    decode_request_get_special_memory_region_location, h.data_length]
  split
  · rfl
  · rename_i hlength
    have hdata := h.data
    rw [not_not.mp hlength] at hdata
    rw [hdata 0 (by decide), hdata 1 (by decide)]

theorem decode_rpv_definition_congr (h : Request.Alike request other) :
    decode_request_get_rpv_definition other = decode_request_get_rpv_definition request := by
  rw [decode_request_get_rpv_definition, decode_request_get_rpv_definition, h.data_length]
  split
  · rfl
  · rename_i hlength
    have hdata := h.data
    rw [not_not.mp hlength] at hdata
    have hstart := hdata.mono (m := 2) (by decide)
    have hcount := hdata.shift 2 (m := 2) (by decide)
    rw [codecs.decode_16_bits_congr hstart, codecs.decode_16_bits_congr hcount]

theorem decode_loop_definition_congr (h : Request.Alike request other) :
    decode_request_get_loop_definition other = decode_request_get_loop_definition request := by
  rw [decode_request_get_loop_definition, decode_request_get_loop_definition, h.data_length]
  split
  · rfl
  · rename_i hlength
    have hdata := h.data
    rw [not_not.mp hlength] at hdata
    rw [hdata 0 (by decide)]

theorem decode_discover_congr (h : Request.Alike request other) :
    decode_request_comm_discover other = decode_request_comm_discover request := by
  rw [decode_request_comm_discover, decode_request_comm_discover, h.data_length]
  split
  · rfl
  · rename_i hlength
    have hdata := h.data
    rw [not_not.mp hlength] at hdata
    rw [hdata.slice_eq (by decide)]

theorem decode_heartbeat_congr (h : Request.Alike request other) :
    decode_request_comm_heartbeat other = decode_request_comm_heartbeat request := by
  rw [decode_request_comm_heartbeat, decode_request_comm_heartbeat, h.data_length]
  split
  · rfl
  · rename_i hlength
    have hdata := h.data
    rw [not_not.mp hlength] at hdata
    have hsession := hdata.mono (m := 4) (by decide)
    have hchallenge := hdata.shift 4 (m := 2) (by decide)
    rw [codecs.decode_32_bits_congr hsession, codecs.decode_16_bits_congr hchallenge]

theorem decode_connect_congr (h : Request.Alike request other) :
    decode_request_comm_connect other = decode_request_comm_connect request := by
  rw [decode_request_comm_connect, decode_request_comm_connect, h.data_length]
  split
  · rfl
  · rename_i hlength
    have hdata := h.data
    rw [not_not.mp hlength] at hdata
    rw [hdata.slice_eq (by decide)]

theorem decode_disconnect_congr (h : Request.Alike request other) :
    decode_request_comm_disconnect other = decode_request_comm_disconnect request := by
  rw [decode_request_comm_disconnect, decode_request_comm_disconnect, h.data_length]
  split
  · rfl
  · rename_i hlength
    have hdata := h.data
    rw [not_not.mp hlength] at hdata
    have hsession := hdata.mono (m := 4) (by decide)
    rw [codecs.decode_32_bits_congr hsession]

end CodecV1_0

section

variable (h : Request.Alike request other) (cursor : Nat)
include h

omit [Platform] in
theorem Request.Alike.byte_eq (hroom : cursor + 1 ≤ request.data_length.toNat) :
    other.data cursor = request.data cursor :=
  (h.data cursor hroom).symm

omit [Platform] in
theorem Request.Alike.word_eq (hroom : cursor + 2 ≤ request.data_length.toNat) :
    codecs.decode_16_bits_big_endian_8bits (other.data.shift cursor) =
      codecs.decode_16_bits_big_endian_8bits (request.data.shift cursor) :=
  (codecs.decode_16_bits_congr (h.data.shift cursor hroom)).symm

omit [Platform] in
theorem Request.Alike.dword_eq (hroom : cursor + 4 ≤ request.data_length.toNat) :
    codecs.decode_32_bits_big_endian_8bits (other.data.shift cursor) =
      codecs.decode_32_bits_big_endian_8bits (request.data.shift cursor) :=
  (codecs.decode_32_bits_congr (h.data.shift cursor hroom)).symm

theorem Request.Alike.address_eq
    (hroom : cursor + Platform.addr_size ≤ request.data_length.toNat) :
    codecs.decode_address_big_endian_8bits (other.data.shift cursor) =
      codecs.decode_address_big_endian_8bits (request.data.shift cursor) :=
  (codecs.decode_address_congr (h.data.shift cursor hroom)).symm

end

namespace CodecV1_0

theorem decode_operand_congr (h : Request.Alike request other) (cursor : Nat)
    (operand : Operand) :
    decode_operand other cursor operand = decode_operand request cursor operand := by
  rw [decode_operand, decode_operand, h.data_length]
  split
  · split
    · rfl
    · rename_i hroom
      rw [codecs.decode_float_big_endian_8bits, codecs.decode_float_big_endian_8bits,
        h.dword_eq _ (by omega)]
  · split
    · split
      · rfl
      · rename_i hroom
        rw [h.word_eq _ (by omega)]
    · split
      · split
        · rfl
        · rename_i hroom
          rw [h.byte_eq _ (by omega), h.address_eq _ (by omega)]
      · split
        · split
          · rfl
          · rename_i hroom
            rw [h.byte_eq cursor (by omega), h.address_eq _ (by omega),
              h.byte_eq (cursor + 1 + Platform.addr_size) (by omega),
              h.byte_eq (cursor + 2 + Platform.addr_size) (by omega)]
        · rfl

theorem decode_operands_congr (h : Request.Alike request other) (n i cursor : Nat)
    (config : Configuration) :
    decode_operands other n i cursor config = decode_operands request n i cursor config := by
  induction n generalizing i cursor config with
  | zero => rfl
  | succ n ih =>
    rw [decode_operands, decode_operands, h.data_length]
    split
    · rfl
    · rename_i hroom
      simp only [h.byte_eq _ (Nat.le_of_not_lt hroom), decode_operand_congr h, ih]

theorem decode_item_congr (h : Request.Alike request other) (cursor : Nat)
    (item : LoggableItem) :
    decode_item other cursor item = decode_item request cursor item := by
  rw [decode_item, decode_item, h.data_length]
  split
  · split
    · rfl
    · rename_i hroom
      rw [h.address_eq _ (by omega), h.byte_eq _ (by omega)]
  · split
    · split
      · rfl
      · rename_i hroom
        rw [h.word_eq _ (by omega)]
    · rfl

theorem decode_items_congr (h : Request.Alike request other) (n i cursor : Nat)
    (config : Configuration) :
    decode_items other n i cursor config = decode_items request n i cursor config := by
  induction n generalizing i cursor config with
  | zero => rfl
  | succ n ih =>
    rw [decode_items, decode_items, h.data_length]
    split
    · rfl
    · rename_i hroom
      simp only [h.byte_eq _ (Nat.le_of_not_lt hroom), decode_item_congr h, ih]

omit [Platform] in
theorem decode_configure_header_congr (h : Request.Alike request other)
    (hlength : 16 ≤ request.data_length.toNat) (config : Configuration) :
    decode_configure_header other config = decode_configure_header request config := by
  rw [decode_configure_header, decode_configure_header]
  simp only [h.word_eq 3 (by omega), h.byte_eq 5 (by omega),
    h.dword_eq 6 (by omega), h.byte_eq 10 (by omega),
    h.dword_eq 11 (by omega), h.byte_eq 15 (by omega)]

theorem decode_configure_request_congr (h : Request.Alike request other)
    (hlength : ¬ request.data_length < 16) (config : Configuration) :
    decode_datalogging_configure_request other config =
      decode_datalogging_configure_request request config := by
  have hfixed : 16 ≤ request.data_length.toNat := Nat.le_of_not_lt hlength
  rw [decode_datalogging_configure_request, decode_datalogging_configure_request, h.data_length]
  simp only [hlength, if_false, h.byte_eq 0 (by omega),
    h.word_eq 1 (by omega), decode_configure_header_congr h hfixed,
    decode_operands_congr h, decode_items_congr h]
  generalize decode_operands request _ 0 16 (decode_configure_header request config) = operands
  obtain ⟨config, _ | cursor⟩ := operands
  · rfl
  · simp only
    by_cases hroom : request.data_length.toNat < cursor + 1
    · simp only [hroom, if_true]
    · simp only [h.byte_eq _ (Nat.le_of_not_lt hroom)]

end CodecV1_0

end protocol

open protocol

namespace MainHandler

variable {request other : Request}

/-- The loop identifier of the stack is used only when the payload holds none. -/
theorem get_loop_definition_congr (h : Request.Alike request other) (s : System)
    {stack stack' : Stack} (response : Response)
    (hloop : stack.loop_id = stack'.loop_id ∨
      ¬ (request.data_length ≠ 1 ∧ s.main.m_config.is_loop_handlers_configured)) :
    get_loop_definition s stack' other response =
      get_loop_definition s stack request response := by
  rw [get_loop_definition, get_loop_definition, CodecV1_0.decode_loop_definition_congr h]
  by_cases hlength : request.data_length = 1
  · simp only [CodecV1_0.decode_request_get_loop_definition, hlength, ne_eq, not_true_eq_false,
      if_false, Option.getD_some]
  · rcases hloop with hloop | hloop
    · rw [hloop]
    · have hnone : s.main.m_config.is_loop_handlers_configured = false :=
        Bool.eq_false_iff.mpr fun hset => hloop ⟨hlength, hset⟩
      simp only [hnone, Bool.not_false, Bool.true_or, if_true]

/-- What the stack holds reaches the answer to GetLoopDefinition. -/
def ReadsLoopId (s : System) (request : Request) : Prop :=
  GetInfo.Subfunction.cast request.subfunction_id = some .GetLoopDefinition ∧
    request.data_length ≠ 1 ∧ s.main.m_config.is_loop_handlers_configured

theorem process_get_info_congr (h : Request.Alike request other) (s : System)
    {stack stack' : Stack} (response : Response)
    (hloop : stack.loop_id = stack'.loop_id ∨ ¬ ReadsLoopId s request) :
    process_get_info s stack' other response = process_get_info s stack request response := by
  rw [process_get_info, process_get_info, h.subfunction_id]
  cases hsubfunction : GetInfo.Subfunction.cast request.subfunction_id with
  | none => rfl
  | some subfunction =>
    cases subfunction with
    | GetSpecialMemoryLocation =>
      simp only [get_special_memory_location, CodecV1_0.decode_special_memory_region_congr h]
    | GetRuntimePublishedValuesDefinition =>
      simp only [get_rpv_definition, CodecV1_0.decode_rpv_definition_congr h]
    | GetLoopDefinition =>
      refine get_loop_definition_congr h s response (hloop.imp_right fun hnot hreads => ?_)
      exact hnot ⟨hsubfunction, hreads⟩
    | _ => rfl

theorem process_comm_control_congr (h : Request.Alike request other) (self : MainHandler)
    (response : Response) :
    self.process_comm_control other response = self.process_comm_control request response := by
  rw [process_comm_control, process_comm_control, h.subfunction_id]
  simp only [comm_discover, comm_heartbeat, comm_connect, comm_disconnect,
    CodecV1_0.decode_discover_congr h, CodecV1_0.decode_heartbeat_congr h,
    CodecV1_0.decode_connect_congr h, CodecV1_0.decode_disconnect_congr h]

/-- A block is read from the same place, into the same place. -/
theorem write_block_read_congr {block block' : MemoryBlock8Bits}
    (hsame : ReadMemoryBlocksRequestParser.SameBlock block block')
    (encoder : ResponseEncoderBase) (memory : Memory) :
    ReadMemoryBlocksResponseEncoder.write encoder block' memory =
      ReadMemoryBlocksResponseEncoder.write encoder block memory := by
  rw [ReadMemoryBlocksResponseEncoder.write, ReadMemoryBlocksResponseEncoder.write,
    encode_block_header, encode_block_header, hsame.1, hsame.2]

theorem read_blocks_congr (m_config : Config) (fuel : Nat)
    {parser parser' : ReadMemoryBlocksRequestParser}
    (halike : ReadMemoryBlocksRequestParser.Alike parser parser') (encoder : ResponseEncoderBase)
    (memory : Memory) :
    read_blocks m_config fuel parser' encoder memory =
      read_blocks m_config fuel parser encoder memory := by
  induction fuel generalizing parser parser' encoder memory with
  | zero => rfl
  | succ fuel ih =>
    obtain ⟨hnext, hblock⟩ := ReadMemoryBlocksRequestParser.next_alike halike
    have hfinished : parser'.m_finished = parser.m_finished := by
      obtain ⟨_, rfl, _⟩ := halike
      rfl
    rw [read_blocks, read_blocks, hfinished]
    generalize parser.next = next at hnext hblock
    generalize parser'.next = next' at hnext hblock
    obtain ⟨after, block⟩ := next
    obtain ⟨after', block'⟩ := next'
    cases hblock with
    | none => rfl
    | some hsame =>
      simp only [block_touches_forbidden_region, MemoryBlock8Bits.length_char, hsame.1, hsame.2,
        write_block_read_congr hsame, ih hnext]

theorem memory_read_congr (h : Request.Alike request other) (self : MainHandler)
    (response : Response) (memory : Memory) :
    self.memory_read other response memory = self.memory_read request response memory := by
  have halike := ReadMemoryBlocksRequestParser.init_alike h.data_length h.data
  have hstate := halike
  obtain ⟨buffer, hparser, _⟩ := hstate
  rw [memory_read, memory_read, h.data_length, read_blocks_congr _ _ halike, hparser]

theorem write_masked_congr (start_address : Nat) {source source' mask mask' : ByteBuffer}
    (n i : Nat) (hsource : Buffer.SameBelow (i + n) source source')
    (hmask : Buffer.SameBelow (i + n) mask mask') (memory : Memory) :
    write_masked start_address source' mask' n i memory =
      write_masked start_address source mask n i memory := by
  induction n generalizing i memory with
  | zero => rfl
  | succ n ih =>
    have hnext : i + 1 + n = i + (n + 1) := by omega
    rw [write_masked, write_masked, ← hsource i (by omega), ← hmask i (by omega)]
    exact ih (i + 1) (hnext ▸ hsource) (hnext ▸ hmask) _

theorem write_block_congr {block block' : MemoryBlock8Bits}
    (hsame : WriteMemoryBlocksRequestParser.SameBlock block block') (memory : Memory) :
    write_block block' memory = write_block block memory := by
  obtain ⟨haddress, hlength, hsource, hmask⟩ := hsame
  have hzero : 0 + block.length.toNat = block.length.toNat := Nat.zero_add _
  rw [write_block, write_block, MemoryBlock8Bits.length_char, MemoryBlock8Bits.length_char,
    ← haddress, ← hlength]
  generalize block.mask = mask at hmask
  generalize block'.mask = mask' at hmask
  cases hmask with
  | none => rw [hsource.slice_eq hzero.le]
  | some hbits =>
    have hchar : block.length / 1 = block.length := BitVec.udiv_one
    simp only [hchar]
    exact write_masked_congr _ _ 0 (hzero.symm ▸ hsource) (hzero.symm ▸ hbits) _

theorem write_blocks_congr (m_config : Config) (fuel : Nat)
    {parser parser' : WriteMemoryBlocksRequestParser}
    (halike : WriteMemoryBlocksRequestParser.Alike parser parser') (encoder : ResponseEncoderBase)
    (memory : Memory) :
    write_blocks m_config fuel parser' encoder memory =
      write_blocks m_config fuel parser encoder memory := by
  induction fuel generalizing parser parser' encoder memory with
  | zero => rfl
  | succ fuel ih =>
    obtain ⟨hnext, hblock⟩ := WriteMemoryBlocksRequestParser.next_alike halike
    have hfinished : parser'.m_finished = parser.m_finished := by
      obtain ⟨_, rfl, _⟩ := halike
      rfl
    rw [write_blocks, write_blocks, hfinished]
    generalize parser.next = next at hnext hblock
    generalize parser'.next = next' at hnext hblock
    obtain ⟨after, block⟩ := next
    obtain ⟨after', block'⟩ := next'
    cases hblock with
    | none => rfl
    | some hsame =>
      simp only [block_touches_forbidden_region, block_touches_readonly_region,
        MemoryBlock8Bits.length_char, WriteMemoryBlocksResponseEncoder.write, encode_block_header,
        write_block_congr hsame, hsame.start_address, hsame.length, ih hnext]

theorem memory_write_congr (h : Request.Alike request other) (self : MainHandler) (masked : Bool)
    (response : Response) (memory : Memory) :
    self.memory_write masked other response memory =
      self.memory_write masked request response memory := by
  have halike := WriteMemoryBlocksRequestParser.init_alike h.data_length h.data masked
  have hstate := halike
  obtain ⟨buffer, hparser, _⟩ := hstate
  simp only [memory_write, h.data_length, write_blocks_congr _ _ halike]
  rw [hparser]

theorem read_rpvs_congr (m_config : Config) (fuel : Nat) {parser parser' : ReadRPVRequestParser}
    (halike : ReadRPVRequestParser.Alike parser parser') (encoder : ResponseEncoderBase)
    (memory : Memory) :
    read_rpvs m_config fuel parser' encoder memory =
      read_rpvs m_config fuel parser encoder memory := by
  induction fuel generalizing parser parser' encoder memory with
  | zero => rfl
  | succ fuel ih =>
    obtain ⟨hnext, hid⟩ := ReadRPVRequestParser.next_alike halike
    have hfinished : parser'.m_finished = parser.m_finished := by
      obtain ⟨_, rfl, _⟩ := halike
      rfl
    rw [read_rpvs, read_rpvs, hfinished]
    generalize parser.next = next at hnext hid
    generalize parser'.next = next' at hnext hid
    obtain ⟨after, id⟩ := next
    obtain ⟨after', id'⟩ := next'
    cases hid
    cases id with
    | none => rfl
    | some id => simp only [ih hnext]

theorem memory_read_rpv_congr (h : Request.Alike request other) (self : MainHandler)
    (response : Response) (memory : Memory) :
    self.memory_read_rpv other response memory =
      self.memory_read_rpv request response memory := by
  have halike : ReadRPVRequestParser.Alike (.init request) (.init other) :=
    ⟨other.data, by rw [ReadRPVRequestParser.init, ReadRPVRequestParser.init, h.data_length],
      h.data⟩
  have hinvalid : (ReadRPVRequestParser.init other).m_invalid =
      (ReadRPVRequestParser.init request).m_invalid := by
    rw [ReadRPVRequestParser.init, ReadRPVRequestParser.init, h.data_length]
  simp only [memory_read_rpv, h.data_length, read_rpvs_congr _ _ halike, hinvalid]

/-- The callback finds the value it is given in the member that the type of the RPV names,
and uses nothing else of the union. -/
def WritesByType (m_config : Config) : Prop :=
  ∀ callback, m_config.m_rpv_write_callback = some callback →
    ∀ rpv ∈ m_config.get_rpvs_array, ∀ v v' : AnyType,
      WriteRPVRequestParser.SameMember (tools.get_type_size_8bits rpv.type) v v' →
        callback rpv v = callback rpv v'

theorem write_rpv_congr {m_config : Config} {rpv : RuntimePublishedValue} {v v' : AnyType}
    (hrpv : rpv ∈ m_config.get_rpvs_array)
    (hsame : WriteRPVRequestParser.SameMember (tools.get_type_size_8bits rpv.type) v v')
    (hcallback : v = v' ∨ WritesByType m_config) (caller : Option LoopId) (memory : Memory) :
    write_rpv m_config rpv v' caller memory = write_rpv m_config rpv v caller memory := by
  obtain rfl | hcallback := hcallback
  · rfl
  · rw [write_rpv, write_rpv]
    split
    · rename_i callback hset
      rw [hcallback callback hset rpv hrpv v v' hsame]
    · rfl

theorem write_rpvs_congr (m_config : Config) (fuel : Nat) {parser parser' : WriteRPVRequestParser}
    (halike : WriteRPVRequestParser.Alike parser parser') {v v' : AnyType}
    (hcallback : v = v' ∨ WritesByType m_config) (encoder : ResponseEncoderBase)
    (memory : Memory) :
    write_rpvs m_config fuel parser' v' encoder memory =
      write_rpvs m_config fuel parser v encoder memory := by
  induction fuel generalizing parser parser' v v' encoder memory with
  | zero => rfl
  | succ fuel ih =>
    obtain ⟨hnext, hentry⟩ := WriteRPVRequestParser.next_alike halike m_config v v'
    have hfinished : parser'.m_finished = parser.m_finished := by
      obtain ⟨_, rfl, _⟩ := halike
      rfl
    rw [write_rpvs, write_rpvs, hfinished]
    generalize parser.next m_config v = next at hnext hentry
    generalize parser'.next m_config v' = next' at hnext hentry
    obtain ⟨after, entry⟩ := next
    obtain ⟨after', entry'⟩ := next'
    have hinvalid : after'.m_invalid = after.m_invalid := by
      obtain ⟨_, hstate, _⟩ := hnext
      exact congrArg (·.m_invalid) hstate
    simp only [hinvalid]
    cases hentry with
    | none => rw [ih hnext hcallback]
    | some hsame =>
      rename_i entry entry'
      obtain ⟨rpv, w⟩ := entry
      obtain ⟨rpv', w'⟩ := entry'
      obtain ⟨hpublished, hrpv, hmember, hequal⟩ := hsame
      simp only at hpublished hrpv hmember hequal
      subst hrpv
      have hstays : w = w' ∨ WritesByType m_config := hcallback.imp_left hequal
      simp only [write_rpv_congr hpublished hmember hstays, ih hnext hstays]

theorem memory_write_rpv_congr (h : Request.Alike request other) (self : MainHandler)
    {stack stack' : Stack} (response : Response) (memory : Memory)
    (hcallback : stack.v = stack'.v ∨ WritesByType self.m_config) :
    self.memory_write_rpv stack' other response memory =
      self.memory_write_rpv stack request response memory := by
  have halike : WriteRPVRequestParser.Alike (.init request) (.init other) :=
    ⟨other.data, by rw [WriteRPVRequestParser.init, WriteRPVRequestParser.init, h.data_length],
      h.data, Nat.zero_le _⟩
  simp only [memory_write_rpv, h.data_length, write_rpvs_congr _ _ halike hcallback]
  rfl

theorem process_memory_control_congr (h : Request.Alike request other) (self : MainHandler)
    {stack stack' : Stack} (response : Response) (memory : Memory)
    (hcallback : stack.v = stack'.v ∨ WritesByType self.m_config) :
    self.process_memory_control stack' other response memory =
      self.process_memory_control stack request response memory := by
  simp only [process_memory_control, h.subfunction_id, memory_read_congr h, memory_write_congr h,
    memory_read_rpv_congr h, memory_write_rpv_congr h self response memory hcallback]

theorem process_user_command_congr (h : Request.Alike request other) (self : MainHandler)
    (response : Response) (memory : Memory) :
    self.process_user_command other response memory =
      self.process_user_command request response memory := by
  rw [process_user_command, process_user_command, h.subfunction_id, h.payload_eq]

theorem configure_datalogger_congr (h : Request.Alike request other) (self : MainHandler)
    (loops : LoopId → LoopHandler) (d : Datalogging) :
    self.configure_datalogger loops other d = self.configure_datalogger loops request d := by
  by_cases hlength : request.data_length < 16
  · -- A request too short for its fixed fields is refused before they are used.
    rw [configure_datalogger, configure_datalogger,
      CodecV1_0.decode_datalogging_configure_request,
      CodecV1_0.decode_datalogging_configure_request, h.data_length]
    simp only [hlength, if_true]
    rfl
  · rw [configure_datalogger, configure_datalogger,
      CodecV1_0.decode_configure_request_congr h hlength]

theorem process_datalog_control_congr (h : Request.Alike request other) (self : MainHandler)
    (loops : LoopId → LoopHandler) (response : Response) :
    self.process_datalog_control loops other response =
      self.process_datalog_control loops request response := by
  simp only [process_datalog_control, h.subfunction_id, configure_datalog,
    configure_datalogger_congr h]

/-- What a command does depends on the payload alone, and on what the stack holds only
where the loop identifier or the unused bytes of a value are read from it. -/
theorem process_command_congr (h : Request.Alike request other) (s : System)
    {stack stack' : Stack} (response : Response)
    (hloop : stack.loop_id = stack'.loop_id ∨
      ¬ (CommandId.cast request.command_id = some .GetInfo ∧ ReadsLoopId s request))
    (hcallback : stack.v = stack'.v ∨ WritesByType s.main.m_config) :
    process_command s stack' other response = process_command s stack request response := by
  rw [process_command, process_command, h.command_id]
  cases hcommand : CommandId.cast request.command_id with
  | none => rfl
  | some command =>
    cases command with
    | GetInfo =>
      have hreads : stack.loop_id = stack'.loop_id ∨ ¬ ReadsLoopId s request :=
        hloop.imp_right fun hnot hreads => hnot ⟨hcommand, hreads⟩
      simp only [process_get_info_congr h s response hreads]
    | CommControl => simp only [process_comm_control_congr h]
    | MemoryControl =>
      simp only [process_memory_control_congr h s.main response s.memory hcallback]
    | DataLogControl => simp only [process_datalog_control_congr h]
    | UserCommand => simp only [process_user_command_congr h]

end MainHandler

end

end scrutiny
