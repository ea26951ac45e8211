import Scrutiny.Requests.Bounds
import Scrutiny.Requests.Defined

open foundation

namespace scrutiny

open datalogging protocol

namespace MainHandler

section

variable [Platform]

/-- The loops that serve a request end with the results that the handlers use, whatever
the response, the target memory and the state of the datalogger. -/
structure LoopsEnd (m_config : Config) (request : Request) (max_size_8bits : Nat) : Prop where
  read_validation : ∃ parser,
    Ends ReadMemoryBlocksRequestParser.traverse_turn
      ⟨request.data, 0, request.data_length, 0, false, false⟩ parser ∧
    ReadMemoryBlocksRequestParser.init request =
      { parser with m_bytes_read := 0, m_finished := false }
  read_blocks : ∀ encoder memory,
    Ends (read_blocks_turn m_config) (.init request, encoder, memory)
      (read_blocks m_config (request.data_length.toNat + 1) (.init request) encoder memory)
  write_validation : ∀ masked_write, ∃ parser,
    Ends WriteMemoryBlocksRequestParser.traverse_turn
      ⟨request.data, 0, request.data_length, 0, false, false, masked_write⟩ parser ∧
    WriteMemoryBlocksRequestParser.init request masked_write =
      { parser with m_bytes_read := 0, m_finished := false }
  write_blocks : ∀ masked_write encoder memory,
    Ends (write_blocks_turn m_config) (.init request masked_write, encoder, memory)
      (write_blocks m_config (request.data_length.toNat + 1) (.init request masked_write) encoder
        memory)
  read_rpvs : ∀ encoder memory,
    Ends (read_rpvs_turn m_config) (.init request, encoder, memory)
      (read_rpvs m_config (request.data_length.toNat + 1) (.init request) encoder memory)
  write_rpvs : ∀ v encoder memory,
    Ends (write_rpvs_turn m_config) ((.init request, v), encoder, memory)
      (write_rpvs m_config (request.data_length.toNat + 1) (.init request) v encoder memory)
  read_acquisition : ∀ ring : RawFormatEncoder,
    Ends (RawFormatReader.read_loop_turn ring ring.get_write_cursor
        ring.get_buffer_effective_size max_size_8bits) (ring.m_reader, [])
      (RawFormatReader.read_loop ring ring.get_write_cursor ring.get_buffer_effective_size
        max_size_8bits (max_size_8bits + 1) ring.m_reader [])

theorem loops_end (m_config : Config) (request : Request) {max_size_8bits : Nat}
    (hmax : 3 ≤ max_size_8bits) : LoopsEnd m_config request max_size_8bits where
  read_validation :=
    ⟨_, ReadMemoryBlocksRequestParser.traverse_ends (Nat.zero_le _)
      (Nat.lt_succ_of_le (Nat.sub_le _ _)), rfl⟩
  read_blocks := fun encoder memory => read_blocks_ends m_config (Nat.zero_le _)
    (by rw [ReadMemoryBlocksRequestParser.unread_init]; exact Nat.lt_succ_self _) encoder memory
  write_validation := fun masked_write =>
    ⟨_, WriteMemoryBlocksRequestParser.traverse_ends (Nat.zero_le _)
      (Nat.lt_succ_of_le (Nat.sub_le _ _)), rfl⟩
  write_blocks := fun masked_write encoder memory => write_blocks_ends m_config (Nat.zero_le _)
    (by rw [WriteMemoryBlocksRequestParser.unread_init]; exact Nat.lt_succ_self _) encoder memory
  read_rpvs := fun encoder memory =>
    read_rpvs_ends m_config (Nat.lt_succ_of_le (Nat.sub_le _ _)) encoder memory
  write_rpvs := fun v encoder memory => write_rpvs_ends m_config (Nat.zero_le _)
    (Nat.lt_succ_of_le (Nat.sub_le _ _)) v encoder memory
  read_acquisition := fun ring => RawFormatReader.read_loop_ends ring
    (Nat.mod_lt _ (Nat.two_pow_pos _)) (Nat.mod_lt _ (Nat.two_pow_pos _)) hmax _ _

/-- A request is served to the end and within its buffers. A read past the payload would
make the result depend on what lies there, and a write past the buffer of the response
would show there. -/
structure Contained (s : System) (stack : Stack) (request : Request) (response : Response) :
    Prop where
  loops_end : LoopsEnd s.main.m_config request (s.comm.tx_buffer_size.toNat - 4)
  reads : ∀ other, Request.Alike request other →
    process_request s stack other response = process_request s stack request response
  writes : ∀ i, s.comm.tx_buffer_size.toNat ≤ i →
    (process_request s stack request response).1.data i = response.data i
  data_length :
    (process_request s stack request response).1.data_length ≤ s.comm.tx_buffer_size
  sent : ((process_request s stack request response).2.comm.send_response
    (process_request s stack request response).1).1.m_tx_error ≠ .Overflow

omit [Platform] in
theorem send_response_no_overflow {comm : CommHandler} {response : Response}
    (hlength : response.data_length ≤ comm.tx_buffer_size) :
    (comm.send_response response).1.m_tx_error ≠ .Overflow := by
  have hfits : ¬response.data_length > comm.m_tx_buffer_size := BitVec.not_lt.mpr hlength
  unfold CommHandler.send_response
  simp only [hfits, if_false]
  split
  · nofun
  · split
    · nofun
    · nofun

/-- Every request is served within its buffers, whatever the state, the configuration and
the size of the buffers. -/
theorem request_contained (s : System) (stack : Stack) (request : Request) (response : Response)
    (hmin : MINIMUM_TX_BUFFER_SIZE ≤ s.comm.tx_buffer_size)
    (hresponse : response.data_max_length = s.comm.tx_buffer_size)
    (hcallback : RespectsLength s.main.m_config) : Contained s stack request response := by
  have hroom : 32 ≤ s.comm.tx_buffer_size.toNat := hmin
  let blank : Response := { response.reset with
    command_id := request.command_id
    subfunction_id := request.subfunction_id }
  have hsize : s.comm.tx_buffer_size = blank.data_max_length := hresponse.symm
  have hfits := process_command_fits (hsize ▸ hmin) rfl s hsize hcallback stack request
  have hlength :
      (process_request s stack request response).1.data_length ≤ s.comm.tx_buffer_size := by
    change (if (process_command s stack request blank).1.1 ≠ .OK then 0
      else (process_command s stack request blank).1.2.data_length) ≤ _
    split
    · exact Nat.zero_le _
    · rename_i hok
      rw [← hresponse]
      exact hfits.data_length (not_not.mp hok)
  refine ⟨loops_end _ _ (by omega), fun other halike => ?_, fun i hi => ?_, hlength, ?_⟩
  · exact process_request_congr halike s response (.inl rfl) (.inl rfl)
  · exact hfits.inside.data i (hresponse ▸ hi)
  · have hsame : (process_request s stack request response).2.comm.tx_buffer_size =
        s.comm.tx_buffer_size :=
      process_command_tx_buffer_size s stack request blank
    exact send_response_no_overflow (hsame ▸ hlength)

end

attribute [local instance] host.platform

/-- A target whose user commands send back what they are given. -/
def echoing : System :=
  { host.start with main := { host.start.main with
    m_config := { host.config 256 [] host.none_forbidden with
      m_user_command_callback := some fun _ payload max_size bytes =>
        ((payload.take max_size.toNat, BitVec.ofNat 16 payload.length), bytes) } } }

theorem echoing_respects_length : RespectsLength echoing.main.m_config := by
  rintro callback hset subfunction payload max_size bytes
  cases hset
  exact List.length_take_le _ _

theorem user_command_contained :
    Contained echoing host.stack { host.memory_request 1 [1, 2, 3] with command_id := 4 }
      host.start.comm.m_active_response :=
  request_contained _ _ _ _ (by decide +kernel) (by decide +kernel) echoing_respects_length

end MainHandler

end scrutiny
