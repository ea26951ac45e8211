import Scrutiny.Requests.Bounds

open foundation

namespace scrutiny

open datalogging

namespace protocol

/-- The response is still to the same request: filling it in only touched its payload. -/
structure Response.SameRequest (before after : Response) : Prop where
  command_id : after.command_id = before.command_id
  subfunction_id : after.subfunction_id = before.subfunction_id

namespace Response.SameRequest

variable {before response : Response}

theorem refl (response : Response) : response.SameRequest response := ⟨rfl, rfl⟩

theorem put (h : before.SameRequest response) (position : Nat) (bytes : List uint8_t) :
    before.SameRequest (response.put position bytes) :=
  ⟨h.command_id, h.subfunction_id⟩

theorem set_length (h : before.SameRequest response) (data_length : Nat) :
    before.SameRequest (response.set_length data_length) :=
  ⟨h.command_id, h.subfunction_id⟩

end Response.SameRequest

namespace CodecV1_0

variable (response : Response)

theorem encode_response_same_request (payload : List uint8_t) :
    response.SameRequest (encode_response payload response).2 := by
  unfold encode_response
  split
  · exact .refl response
  · exact ((Response.SameRequest.refl response).put 0 payload).set_length _

theorem encode_response_get_loop_definition_same_request [Platform]
    (response_data : ResponseData.GetInfo.GetLoopDefinition) :
    response.SameRequest (encode_response_get_loop_definition response_data response).2 := by
  unfold encode_response_get_loop_definition
  simp only
  repeat' split
  all_goals exact ⟨rfl, rfl⟩

theorem encode_response_read_acquisition_same_request [Platform]
    (response_data : ResponseData.DataLogControl.ReadAcquisition) (encoder : RawFormatEncoder)
    (crc : uint32_t) :
    response.SameRequest (encode_response_datalogging_read_acquisition response_data encoder crc
      response).response := by
  unfold encode_response_datalogging_read_acquisition
  split
  · exact .refl response
  · simp only
    split
    · exact ⟨rfl, rfl⟩
    · exact ⟨rfl, rfl⟩

end CodecV1_0

namespace ResponseEncoderBase

variable {response : Response} {encoder : ResponseEncoderBase} [Platform]

theorem write_block_read_same_request (h : response.SameRequest encoder.m_response)
    (block : MemoryBlock8Bits) (memory : Memory) : response.SameRequest
      (ReadMemoryBlocksResponseEncoder.write encoder block memory).1.m_response := by
  unfold ReadMemoryBlocksResponseEncoder.write
  split
  · exact h
  · split
    · exact h
    · exact ⟨h.command_id, h.subfunction_id⟩

theorem write_block_written_same_request (h : response.SameRequest encoder.m_response)
    (block : MemoryBlock8Bits) : response.SameRequest
      (WriteMemoryBlocksResponseEncoder.write encoder block).m_response := by
  unfold WriteMemoryBlocksResponseEncoder.write
  split
  · exact h
  · exact ⟨h.command_id, h.subfunction_id⟩

theorem write_rpv_definition_same_request (h : response.SameRequest encoder.m_response)
    (rpv : RuntimePublishedValue) :
    response.SameRequest (GetRPVDefinitionResponseEncoder.write encoder rpv).m_response := by
  unfold GetRPVDefinitionResponseEncoder.write
  split
  · exact h
  · exact ⟨h.command_id, h.subfunction_id⟩

theorem write_rpv_read_same_request (h : response.SameRequest encoder.m_response)
    (rpv : RuntimePublishedValue) (v : AnyType) :
    response.SameRequest (ReadRPVResponseEncoder.write encoder rpv v).m_response := by
  unfold ReadRPVResponseEncoder.write
  simp only
  split
  · exact h
  · split
    · exact ⟨h.command_id, h.subfunction_id⟩
    · exact h

theorem write_rpv_written_same_request (h : response.SameRequest encoder.m_response)
    (rpv : RuntimePublishedValue) :
    response.SameRequest (WriteRPVResponseEncoder.write encoder rpv).m_response := by
  unfold WriteRPVResponseEncoder.write
  simp only
  split
  · exact h
  · exact ⟨h.command_id, h.subfunction_id⟩

end ResponseEncoderBase

end protocol

open protocol protocol.ResponseEncoderBase

namespace MainHandler

variable [Platform] {response : Response} {encoder : ResponseEncoderBase}

section

variable (m_config : Config)

theorem read_blocks_same_request (fuel : Nat) (parser : ReadMemoryBlocksRequestParser)
    (h : response.SameRequest encoder.m_response) (memory : Memory) :
    response.SameRequest (read_blocks m_config fuel parser encoder memory).1.2 := by
  induction fuel generalizing parser encoder memory with
  | zero => exact h
  | succ fuel ih =>
    rw [read_blocks]
    split
    · exact h
    · generalize parser.next = next
      obtain ⟨after, _ | block⟩ := next
      · exact h
      · have hwritten := write_block_read_same_request h block memory
        simp only
        split
        · exact h
        · split
          · exact hwritten
          · exact ih after hwritten _

theorem write_blocks_same_request (fuel : Nat) (parser : WriteMemoryBlocksRequestParser)
    (h : response.SameRequest encoder.m_response) (memory : Memory) :
    response.SameRequest (write_blocks m_config fuel parser encoder memory).1.2 := by
  induction fuel generalizing parser encoder memory with
  | zero => exact h
  | succ fuel ih =>
    rw [write_blocks]
    split
    · exact h
    · generalize parser.next = next
      obtain ⟨after, _ | block⟩ := next
      · exact h
      · simp only
        split
        · exact h
        · split
          · exact h
          · exact ih after (write_block_written_same_request h block) _

theorem read_rpvs_same_request (fuel : Nat) (parser : ReadRPVRequestParser)
    (h : response.SameRequest encoder.m_response) (memory : Memory) :
    response.SameRequest (read_rpvs m_config fuel parser encoder memory).1.2 := by
  induction fuel generalizing parser encoder memory with
  | zero => exact h
  | succ fuel ih =>
    rw [read_rpvs]
    split
    · exact h
    · generalize parser.next = next
      obtain ⟨after, _ | id⟩ := next
      · exact h
      · simp only
        split
        · exact h
        · rename_i rpv _
          have hwritten :=
            write_rpv_read_same_request h rpv (read_rpv m_config rpv none memory).1.2
          split
          · exact h
          · split
            · exact hwritten
            · exact ih after hwritten _

theorem write_rpvs_same_request (fuel : Nat) (parser : WriteRPVRequestParser) (v : AnyType)
    (h : response.SameRequest encoder.m_response) (memory : Memory) :
    response.SameRequest (write_rpvs m_config fuel parser v encoder memory).1.2 := by
  induction fuel generalizing parser v encoder memory with
  | zero => exact h
  | succ fuel ih =>
    rw [write_rpvs]
    split
    · exact h
    · generalize parser.next m_config v = next
      obtain ⟨after, entry⟩ := next
      simp only
      split
      · exact h
      · cases entry with
        | none => exact ih after v h _
        | some entry =>
          have hwritten := write_rpv_written_same_request h entry.1
          simp only
          split
          · exact h
          · split
            · exact hwritten
            · exact ih after _ hwritten _

theorem write_rpv_definitions_same_request (rpvs : List RuntimePublishedValue)
    (h : response.SameRequest encoder.m_response) :
    response.SameRequest (write_rpv_definitions rpvs encoder).2.m_response := by
  induction rpvs generalizing encoder with
  | nil => exact h
  | cons rpv rpvs ih =>
    have hwritten := write_rpv_definition_same_request h rpv
    rw [write_rpv_definitions]
    split
    · exact hwritten
    · exact ih hwritten

end

variable (response)

theorem process_get_info_same_request (s : System) (stack : Stack) (request : Request) :
    response.SameRequest (process_get_info s stack request response).2 := by
  have hsame := Response.SameRequest.refl response
  have hencoded (payload : List uint8_t) :
      response.SameRequest (CodecV1_0.encode_response payload response).2 :=
    CodecV1_0.encode_response_same_request response payload
  have hregion (ranges_set : Bool) (ranges : List AddressRange) (count : uint8_t)
      (request_data : RequestData.GetSpecialMemoryRegionLocation) : response.SameRequest
        (special_memory_region ranges_set ranges count request_data response).2 := by
    unfold special_memory_region
    split
    · exact hsame
    · split
      · exact hsame
      · split
        · exact hencoded _
        · exact hsame
  unfold process_get_info
  split
  · exact hencoded _
  · exact hencoded _
  · exact hencoded _
  · exact hencoded _
  · unfold get_special_memory_location
    split
    · exact hsame
    · split
      · exact hregion _ _ _ _
      · exact hregion _ _ _ _
      · exact hsame
  · exact hencoded _
  · unfold get_rpv_definition
    split
    · exact hsame
    · simp only
      split
      · exact ⟨rfl, rfl⟩
      · split
        · exact ⟨rfl, rfl⟩
        · exact write_rpv_definitions_same_request _ ⟨rfl, rfl⟩
  · exact hencoded _
  · unfold get_loop_definition
    simp only
    split
    · exact hsame
    · exact CodecV1_0.encode_response_get_loop_definition_same_request response _
  · exact hsame

theorem process_comm_control_same_request (self : MainHandler) (request : Request) :
    response.SameRequest (self.process_comm_control request response).1.2 := by
  have hsame := Response.SameRequest.refl response
  have hencoded (payload : List uint8_t) :
      response.SameRequest (CodecV1_0.encode_response payload response).2 :=
    CodecV1_0.encode_response_same_request response payload
  unfold process_comm_control
  split
  · unfold comm_discover
    split
    · exact hencoded _
    · exact hsame
  · simp only
    unfold comm_heartbeat
    split
    · exact hsame
    · split
      · exact hsame
      · split
        · exact hsame
        · exact hencoded _
  · exact hencoded _
  · simp only
    unfold comm_connect
    split
    · exact hsame
    · split
      · exact hsame
      · split
        · exact hsame
        · exact hencoded _
  · exact hsame
  · exact hsame

theorem process_memory_control_same_request (self : MainHandler) (stack : Stack)
    (request : Request) (memory : Memory) :
    response.SameRequest (self.process_memory_control stack request response memory).1.2 := by
  have hsame := Response.SameRequest.refl response
  have hinit : response.SameRequest (ResponseEncoderBase.init response
      self.m_comm_handler.tx_buffer_size).m_response := ⟨rfl, rfl⟩
  have hwrite (masked : Bool) :
      response.SameRequest (self.memory_write masked request response memory).1.2 := by
    unfold memory_write
    split
    · exact hsame
    · simp only
      split
      · exact hinit
      · split
        · exact hinit
        · exact write_blocks_same_request _ _ _ hinit _
  unfold process_memory_control
  split
  · unfold memory_read
    simp only
    split
    · exact hinit
    · split
      · exact hinit
      · exact read_blocks_same_request _ _ _ hinit _
  · exact hwrite _
  · exact hwrite _
  · unfold memory_read_rpv
    split
    · exact hsame
    · simp only
      split
      · exact hinit
      · exact read_rpvs_same_request _ _ _ hinit _
  · unfold memory_write_rpv
    split
    · exact hsame
    · simp only
      split
      · exact hinit
      · exact write_rpvs_same_request _ _ _ _ hinit _
  · exact hsame

theorem process_datalog_control_same_request (self : MainHandler) (loops : LoopId → LoopHandler)
    (request : Request) :
    response.SameRequest (self.process_datalog_control loops request response).1.2 := by
  have hsame := Response.SameRequest.refl response
  have hencoded (payload : List uint8_t) :
      response.SameRequest (CodecV1_0.encode_response payload response).2 :=
    CodecV1_0.encode_response_same_request response payload
  unfold process_datalog_control
  simp only
  split
  · exact hsame
  · split
    · exact hencoded _
    · exact hsame
    · exact hsame
    · exact hsame
    · exact hencoded _
    · split
      · exact hencoded _
      · exact hsame
    · unfold read_acquisition
      split
      · exact hsame
      · split
        · exact CodecV1_0.encode_response_read_acquisition_same_request response _ _ _
        · exact hsame
    · exact hsame
    · exact hsame

theorem process_command_same_request (s : System) (stack : Stack) (request : Request) :
    response.SameRequest (process_command s stack request response).1.2 := by
  unfold process_command
  split
  · exact process_get_info_same_request response s stack request
  · exact process_comm_control_same_request response s.main request
  · exact process_memory_control_same_request response s.main stack request s.memory
  · exact process_datalog_control_same_request response s.main s.loops request
  · simp only
    unfold process_user_command
    split
    · exact .refl response
    · simp only
      split
      · exact ⟨rfl, rfl⟩
      · exact ⟨rfl, rfl⟩
  · exact .refl response

end MainHandler

end scrutiny
