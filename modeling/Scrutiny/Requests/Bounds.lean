import Scrutiny.MainHandler.Effects
import Scrutiny.MemoryAccess
import Scrutiny.Requests.Loops

open foundation

namespace scrutiny

open datalogging

namespace protocol

/-- Filling in a response touched nothing past the end of its buffer. -/
structure Response.Inside (before after : Response) : Prop where
  data_max_length : after.data_max_length = before.data_max_length
  data : ∀ i, before.data_max_length.toNat ≤ i → after.data i = before.data i

namespace Response.Inside

variable {before response : Response}

theorem refl (response : Response) : response.Inside response := ⟨rfl, fun _ _ => rfl⟩

theorem put (h : before.Inside response) (position : Nat) (bytes : List uint8_t)
    (hroom : position + bytes.length ≤ before.data_max_length.toNat) :
    before.Inside (response.put position bytes) := by
  refine ⟨h.data_max_length, fun i hi => ?_⟩
  rw [← h.data i hi]
  exact Buffer.write_of_ge _ _ (hroom.trans hi)

theorem set_length (h : before.Inside response) (data_length : Nat) :
    before.Inside (response.set_length data_length) :=
  ⟨h.data_max_length, h.data⟩

end Response.Inside

/-- The response of a handler stays in its buffer, and so does the payload it is given
when the code is OK. -/
structure Response.Fits (before : Response) (result : ResponseCode × Response) : Prop where
  inside : before.Inside result.2
  data_length : result.1 = .OK → result.2.data_length ≤ before.data_max_length

namespace Response.Fits

variable {before response : Response} {code : ResponseCode}

theorem of_not_ok (h : before.Inside response) (hcode : code ≠ .OK) :
    before.Fits (code, response) :=
  ⟨h, fun hok => absurd hok hcode⟩

theorem set_length (h : before.Inside response) {data_length : Nat}
    (hlength : data_length ≤ before.data_max_length.toNat) :
    before.Fits (.OK, response.set_length data_length) := by
  refine ⟨h.set_length data_length, fun _ => ?_⟩
  change BitVec.ofNat 16 data_length ≤ before.data_max_length
  bv_omega

end Response.Fits

theorem exceeds_tx_buffer_false {datalen : Nat} {response : Response}
    (hmin : MINIMUM_TX_BUFFER_SIZE ≤ response.data_max_length)
    (hnot : ¬exceeds_tx_buffer datalen response = true) :
    datalen ≤ response.data_max_length.toNat := by
  have hmin : MINIMUM_TX_BUFFER_SIZE.toNat ≤ response.data_max_length.toNat := hmin
  simp only [exceeds_tx_buffer, Bool.and_eq_true, decide_eq_true_eq] at hnot
  omega

namespace CodecV1_0

variable {response : Response}

theorem encode_response_fits (hmin : MINIMUM_TX_BUFFER_SIZE ≤ response.data_max_length)
    (payload : List uint8_t) : response.Fits (encode_response payload response) := by
  unfold encode_response
  split
  · exact .of_not_ok (.refl _) nofun
  · rename_i hroom
    have hfits := exceeds_tx_buffer_false hmin hroom
    exact .set_length ((Response.Inside.refl _).put _ _ (by omega)) hfits

theorem encode_response_get_loop_definition_fits
    (hmin : MINIMUM_TX_BUFFER_SIZE ≤ response.data_max_length)
    (response_data : ResponseData.GetInfo.GetLoopDefinition) :
    response.Fits (encode_response_get_loop_definition response_data response) := by
  have hmin : 32 ≤ response.data_max_length.toNat := hmin
  have hname (cursor n : Nat) :
      cursor + (BitVec.ofNat 8 n :: response_data.loop_name.take n).length ≤ cursor + 1 + n := by
    have htake := List.length_take_le n response_data.loop_name
    rw [List.length_cons]
    omega
  unfold encode_response_get_loop_definition
  split
  · exact .of_not_ok (.refl _) nofun
  · generalize (if response_data.support_datalogging = true then 0x80#8 else 0) = attributes
    have hstart : response.Inside
        (response.put 0 [response_data.loop_id, response_data.loop_type, attributes]) :=
      (Response.Inside.refl _).put _ _ (by simp; omega)
    simp only
    split
    · split
      · exact .of_not_ok hstart nofun
      · rename_i hroom
        have htimestep := hstart.put 3
          (codecs.encode_32_bits_big_endian_8bits response_data.timestep_100ns)
          (Nat.le_of_not_lt hroom)
        split
        · exact .of_not_ok htimestep nofun
        · rename_i hfits
          have hfits := Nat.le_of_not_lt hfits
          exact .set_length (htimestep.put _ _ ((hname 7 _).trans hfits)) hfits
    · split
      · exact .of_not_ok hstart nofun
      · rename_i hfits
        have hfits := Nat.le_of_not_lt hfits
        exact .set_length (hstart.put _ _ ((hname 3 _).trans hfits)) hfits
    · exact .of_not_ok hstart nofun

end CodecV1_0

/-- The encoder of a response writes inside its buffer. -/
structure ResponseEncoderBase.Inside (response : Response) (encoder : ResponseEncoderBase) :
    Prop where
  wellFormed : encoder.WellFormed
  inside : response.Inside encoder.m_response
  size_limit : encoder.m_size_limit = response.data_max_length

namespace ResponseEncoderBase.Inside

variable {response : Response} {encoder : ResponseEncoderBase}

theorem init {max_size : uint16_t} (hmax : max_size = response.data_max_length) :
    Inside response (.init response max_size) :=
  ⟨wellFormed_init response max_size, ⟨rfl, fun _ _ => rfl⟩, hmax⟩

theorem append (h : Inside response encoder) {bytes : List uint8_t}
    (hroom : bytes.length ≤ encoder.remaining) : Inside response (encoder.append bytes) := by
  have hcursor : encoder.m_cursor.toNat ≤ encoder.m_size_limit.toNat := h.wellFormed.cursor_le
  have hend : encoder.m_cursor.toNat + bytes.length ≤ response.data_max_length.toNat := by
    rw [← h.size_limit]
    unfold remaining at hroom
    bv_omega
  obtain ⟨hmax, hdata⟩ := h.inside.put _ _ hend
  exact ⟨(append_of_fits h.wellFormed hroom).1, ⟨hmax, hdata⟩, h.size_limit⟩

theorem set_overflow (h : Inside response encoder) :
    Inside response { encoder with m_overflow := true } :=
  ⟨⟨h.wellFormed.length_eq, h.wellFormed.cursor_le⟩, h.inside, h.size_limit⟩

theorem fits (h : Inside response encoder) (code : ResponseCode) :
    response.Fits (code, encoder.m_response) := by
  refine ⟨h.inside, fun _ => ?_⟩
  rw [← h.size_limit]
  exact h.wellFormed.length_eq ▸ h.wellFormed.cursor_le

variable [Platform]

theorem write_block_read (h : Inside response encoder) (block : MemoryBlock8Bits)
    (memory : Memory) :
    Inside response (ReadMemoryBlocksResponseEncoder.write encoder block memory).1 := by
  unfold ReadMemoryBlocksResponseEncoder.write
  split
  · exact h.set_overflow
  · split
    · exact h.set_overflow
    · rename_i hroom
      exact h.append (by simpa using hroom)

theorem write_block_written (h : Inside response encoder) (block : MemoryBlock8Bits) :
    Inside response (WriteMemoryBlocksResponseEncoder.write encoder block) := by
  unfold WriteMemoryBlocksResponseEncoder.write
  split
  · exact h.set_overflow
  · rename_i hroom
    exact h.append (by simpa using hroom)

theorem write_rpv_definition (h : Inside response encoder) (rpv : RuntimePublishedValue) :
    Inside response (GetRPVDefinitionResponseEncoder.write encoder rpv) := by
  unfold GetRPVDefinitionResponseEncoder.write
  split
  · exact h.set_overflow
  · rename_i hroom
    exact h.append (Nat.le_of_not_lt hroom)

theorem write_rpv_read (h : Inside response encoder) (rpv : RuntimePublishedValue)
    (v : AnyType) : Inside response (ReadRPVResponseEncoder.write encoder rpv v) := by
  unfold ReadRPVResponseEncoder.write
  simp only
  split
  · exact h.set_overflow
  · split
    · rename_i hroom hsize
      have hlength : (codecs.encode_anytype_big_endian_8bits v
          (tools.get_type_size_8bits rpv.type)).length =
            (tools.get_type_size_8bits rpv.type).toNat := by
        obtain hsize | hsize | hsize | hsize := hsize <;> rw [hsize] <;> rfl
      refine h.append ?_
      rw [List.length_append, hlength]
      exact Nat.le_of_not_lt hroom
    · exact h

theorem write_rpv_written (h : Inside response encoder) (rpv : RuntimePublishedValue) :
    Inside response (WriteRPVResponseEncoder.write encoder rpv) := by
  unfold WriteRPVResponseEncoder.write
  simp only
  split
  · exact h.set_overflow
  · rename_i hroom
    exact h.append (Nat.le_of_not_lt hroom)

end ResponseEncoderBase.Inside

end protocol

open protocol

namespace datalogging.RawFormatReader

variable [Platform]

theorem transfer_size_le (write_cursor buffer_end max_size_8bits : Nat) (self : RawFormatReader)
    (output : List uint8_t) :
    transfer_size write_cursor buffer_end max_size_8bits self output ≤
      max_size_8bits - output.length := by
  have hle (available room : Nat) : (if available < room then available else room) ≤ room := by
    split <;> omega
  exact hle _ _

theorem length_read_loop_turn (encoder : RawFormatEncoder)
    (write_cursor buffer_end max_size_8bits : Nat) {s : RawFormatReader × List uint8_t}
    (hs : s.2.length ≤ max_size_8bits) :
    (read_loop_turn encoder write_cursor buffer_end max_size_8bits s).elim
      (·.2.length ≤ max_size_8bits) (·.2.length ≤ max_size_8bits) := by
  obtain ⟨self, output⟩ := s
  have htransfer := transfer_size_le write_cursor buffer_end max_size_8bits self output
  have hnext : output.length + transfer_size write_cursor buffer_end max_size_8bits self output ≤
      max_size_8bits := by
    simp only at hs
    omega
  rw [read_loop_turn]
  split
  · simp only
    split
    · simpa using hnext
    · simpa using hnext
  · exact hs

theorem length_read_loop (encoder : RawFormatEncoder)
    (write_cursor buffer_end max_size_8bits fuel : Nat) {s : RawFormatReader × List uint8_t}
    (hs : s.2.length ≤ max_size_8bits) :
    (read_loop encoder write_cursor buffer_end max_size_8bits fuel s.1 s.2).2.length ≤
      max_size_8bits := by
  induction fuel generalizing s with
  | zero => exact hs
  | succ fuel ih =>
    have hturn := length_read_loop_turn encoder write_cursor buffer_end max_size_8bits hs
    rw [read_loop_succ]
    cases hnext : read_loop_turn encoder write_cursor buffer_end max_size_8bits s with
    | inl result =>
      rw [hnext] at hturn
      exact hturn
    | inr next =>
      rw [hnext] at hturn
      exact ih hturn

theorem length_read_dilate_8bits (encoder : RawFormatEncoder) (max_size_8bits : Nat) :
    (read_dilate_8bits encoder max_size_8bits).2.length ≤ max_size_8bits := by
  unfold read_dilate_8bits
  split
  · exact Nat.zero_le _
  · simp only
    split
    · exact Nat.zero_le _
    · exact length_read_loop encoder _ _ _ _ (s := (encoder.m_reader, [])) (Nat.zero_le _)

end datalogging.RawFormatReader

namespace MainHandler

variable [Platform]

section

variable {response : Response} {encoder : ResponseEncoderBase}

theorem read_blocks_fits (m_config : Config) (fuel : Nat)
    (parser : ReadMemoryBlocksRequestParser) (h : encoder.Inside response) (memory : Memory) :
    response.Fits (read_blocks m_config fuel parser encoder memory).1 := by
  induction fuel generalizing parser encoder memory with
  | zero => exact h.fits _
  | succ fuel ih =>
    rw [read_blocks]
    split
    · exact h.fits _
    · generalize parser.next = next
      obtain ⟨after, _ | block⟩ := next
      · exact h.fits _
      · simp only
        split
        · exact h.fits _
        · have hwritten := h.write_block_read block memory
          split
          · exact hwritten.fits _
          · exact ih _ hwritten _

theorem write_blocks_fits (m_config : Config) (fuel : Nat)
    (parser : WriteMemoryBlocksRequestParser) (h : encoder.Inside response) (memory : Memory) :
    response.Fits (write_blocks m_config fuel parser encoder memory).1 := by
  induction fuel generalizing parser encoder memory with
  | zero => exact h.fits _
  | succ fuel ih =>
    rw [write_blocks]
    split
    · exact h.fits _
    · generalize parser.next = next
      obtain ⟨after, _ | block⟩ := next
      · exact h.fits _
      · simp only
        split
        · exact h.fits _
        · split
          · exact h.fits _
          · exact ih _ (h.write_block_written block) _

theorem read_rpvs_fits (m_config : Config) (fuel : Nat) (parser : ReadRPVRequestParser)
    (h : encoder.Inside response) (memory : Memory) :
    response.Fits (read_rpvs m_config fuel parser encoder memory).1 := by
  induction fuel generalizing parser encoder memory with
  | zero => exact h.fits _
  | succ fuel ih =>
    rw [read_rpvs]
    split
    · exact h.fits _
    · generalize parser.next = next
      obtain ⟨after, _ | id⟩ := next
      · exact h.fits _
      · simp only
        split
        · exact h.fits _
        · rename_i rpv hfound
          split
          · exact h.fits _
          · have hwritten := h.write_rpv_read rpv (read_rpv m_config rpv none memory).1.2
            split
            · exact hwritten.fits _
            · exact ih _ hwritten _

theorem write_rpvs_fits (m_config : Config) (fuel : Nat) (parser : WriteRPVRequestParser)
    (v : AnyType) (h : encoder.Inside response) (memory : Memory) :
    response.Fits (write_rpvs m_config fuel parser v encoder memory).1 := by
  induction fuel generalizing parser v encoder memory with
  | zero => exact h.fits _
  | succ fuel ih =>
    rw [write_rpvs]
    split
    · exact h.fits _
    · generalize parser.next m_config v = next
      obtain ⟨after, entry⟩ := next
      simp only
      split
      · exact h.fits _
      · cases entry with
        | none => exact ih _ _ h _
        | some entry =>
          simp only
          split
          · exact h.fits _
          · have hwritten := h.write_rpv_written entry.1
            split
            · exact hwritten.fits _
            · exact ih _ _ hwritten _

theorem write_rpv_definitions_fits (rpvs : List RuntimePublishedValue)
    (h : encoder.Inside response) :
    response.Fits ((write_rpv_definitions rpvs encoder).1,
      (write_rpv_definitions rpvs encoder).2.m_response) := by
  induction rpvs generalizing encoder with
  | nil => exact h.fits _
  | cons rpv rpvs ih =>
    have hwritten := h.write_rpv_definition rpv
    rw [write_rpv_definitions]
    split
    · exact hwritten.fits _
    · exact ih hwritten

end

section

variable {response : Response}

theorem process_get_info_fits (hmin : MINIMUM_TX_BUFFER_SIZE ≤ response.data_max_length)
    (s : System) (htx : s.comm.tx_buffer_size = response.data_max_length) (stack : Stack)
    (request : Request) : response.Fits (process_get_info s stack request response) := by
  have hsame := Response.Inside.refl response
  have hregion (ranges_set : Bool) (ranges : List AddressRange) (count : uint8_t)
      (request_data : RequestData.GetSpecialMemoryRegionLocation) : response.Fits
        (special_memory_region ranges_set ranges count request_data response) := by
    unfold special_memory_region
    split
    · exact .of_not_ok hsame nofun
    · split
      · exact .of_not_ok hsame nofun
      · split
        · exact CodecV1_0.encode_response_fits hmin _
        · exact .of_not_ok hsame nofun
  unfold process_get_info
  split
  · exact CodecV1_0.encode_response_fits hmin _
  · exact CodecV1_0.encode_response_fits hmin _
  · exact CodecV1_0.encode_response_fits hmin _
  · exact CodecV1_0.encode_response_fits hmin _
  · unfold get_special_memory_location
    split
    · exact .of_not_ok hsame nofun
    · split
      · exact hregion _ _ _ _
      · exact hregion _ _ _ _
      · exact .of_not_ok hsame nofun
  · exact CodecV1_0.encode_response_fits hmin _
  · have hinit := ResponseEncoderBase.Inside.init htx
    unfold get_rpv_definition
    split
    · exact .of_not_ok hsame nofun
    · simp only
      split
      · exact hinit.fits _
      · split
        · exact hinit.fits _
        · exact write_rpv_definitions_fits _ hinit
  · exact CodecV1_0.encode_response_fits hmin _
  · unfold get_loop_definition
    simp only
    split
    · exact .of_not_ok hsame nofun
    · exact CodecV1_0.encode_response_get_loop_definition_fits hmin _
  · exact .of_not_ok hsame nofun

theorem comm_heartbeat_fits (hmin : MINIMUM_TX_BUFFER_SIZE ≤ response.data_max_length)
    (self : MainHandler) (request : Request) :
    response.Fits (self.comm_heartbeat request response).1 := by
  unfold comm_heartbeat
  split
  · exact .of_not_ok (.refl _) nofun
  · split
    · exact .of_not_ok (.refl _) nofun
    · split
      · exact .of_not_ok (.refl _) nofun
      · simp only [CodecV1_0.encode_response_comm_heartbeat]
        exact CodecV1_0.encode_response_fits hmin _

theorem comm_connect_fits (hmin : MINIMUM_TX_BUFFER_SIZE ≤ response.data_max_length)
    (self : MainHandler) (request : Request) :
    response.Fits (self.comm_connect request response).1 := by
  unfold comm_connect
  split
  · exact .of_not_ok (.refl _) nofun
  · split
    · exact .of_not_ok (.refl _) nofun
    · split
      · exact .of_not_ok (.refl _) nofun
      · simp only [CodecV1_0.encode_response_comm_connect]
        exact CodecV1_0.encode_response_fits hmin _

omit [Platform] in
/-- A response left blank. -/
theorem blank_fits (hblank : response.data_length = 0) (code : ResponseCode) :
    response.Fits (code, response) := by
  refine ⟨.refl _, fun _ => ?_⟩
  rw [hblank]
  exact Nat.zero_le _

theorem process_comm_control_fits (hmin : MINIMUM_TX_BUFFER_SIZE ≤ response.data_max_length)
    (hblank : response.data_length = 0) (self : MainHandler) (request : Request) :
    response.Fits (self.process_comm_control request response).1 := by
  unfold process_comm_control
  split
  · unfold comm_discover
    split
    · exact CodecV1_0.encode_response_fits hmin _
    · exact .of_not_ok (.refl _) nofun
  · exact comm_heartbeat_fits hmin self request
  · simp only [CodecV1_0.encode_response_comm_get_params]
    exact CodecV1_0.encode_response_fits hmin _
  · exact comm_connect_fits hmin self request
  · exact blank_fits hblank _
  · exact .of_not_ok (.refl _) nofun

theorem process_memory_control_fits (self : MainHandler)
    (htx : self.m_comm_handler.tx_buffer_size = response.data_max_length) (stack : Stack)
    (request : Request) (memory : Memory) :
    response.Fits (self.process_memory_control stack request response memory).1 := by
  have hsame := Response.Inside.refl response
  have hinit := ResponseEncoderBase.Inside.init htx
  have hwrite (masked : Bool) :
      response.Fits (self.memory_write masked request response memory).1 := by
    unfold memory_write
    split
    · exact .of_not_ok hsame nofun
    · simp only
      split
      · exact hinit.fits _
      · split
        · exact hinit.fits _
        · exact write_blocks_fits _ _ _ hinit _
  unfold process_memory_control
  split
  · unfold memory_read
    simp only
    split
    · exact hinit.fits _
    · split
      · exact hinit.fits _
      · exact read_blocks_fits _ _ _ hinit _
  · exact hwrite _
  · exact hwrite _
  · unfold memory_read_rpv
    split
    · exact .of_not_ok hsame nofun
    · simp only
      split
      · exact hinit.fits _
      · exact read_rpvs_fits _ _ _ hinit _
  · unfold memory_write_rpv
    split
    · exact .of_not_ok hsame nofun
    · simp only
      split
      · exact hinit.fits _
      · exact write_rpvs_fits _ _ _ _ hinit _
  · exact .of_not_ok hsame nofun

theorem read_acquisition_fits (hmin : MINIMUM_TX_BUFFER_SIZE ≤ response.data_max_length)
    (response_data : ResponseData.DataLogControl.ReadAcquisition) (encoder : RawFormatEncoder)
    (crc : uint32_t) :
    response.Fits
      ((CodecV1_0.encode_response_datalogging_read_acquisition response_data encoder crc
          response).code,
        (CodecV1_0.encode_response_datalogging_read_acquisition response_data encoder crc
          response).response) := by
  have hmin : 32 ≤ response.data_max_length.toNat := hmin
  have hlimit := response.data_max_length.isLt
  unfold CodecV1_0.encode_response_datalogging_read_acquisition
  split
  · exact .of_not_ok (.refl _) nofun
  · have hheader : response.Inside (response.put 1
        (codecs.encode_8_bits_8bits response_data.rolling_counter ++
          codecs.encode_16_bits_big_endian_8bits response_data.acquisition_id)) :=
      (Response.Inside.refl _).put _ _ (by simp [codecs.encode_8_bits_8bits]; omega)
    have hroom := (RawFormatReader.length_read_dilate_8bits encoder
      (buffer_size (response.data_max_length.toNat - 4))).trans (Nat.mod_le _ _)
    obtain ⟨⟨after, bytes⟩, hread⟩ : ∃ read, RawFormatReader.read_dilate_8bits encoder
        (buffer_size (response.data_max_length.toNat - 4)) = read := ⟨_, rfl⟩
    rw [hread] at hroom
    simp only at hroom
    simp only [Response.put_data_max_length, hread]
    generalize hpartly : ((response.put 1 _).put 4 bytes).set_length (bytes.length + 4) = partly
    have hdata : response.Inside partly :=
      hpartly ▸ (hheader.put 4 bytes (by omega)).set_length _
    have hlength : partly.data_length.toNat = bytes.length + 4 := by
      rw [← hpartly, Response.set_length, BitVec.toNat_ofNat]
      omega
    -- The CRC is added only when there is room for it.
    split
    · rename_i hfinished
      rw [Bool.and_eq_true, decide_eq_true_eq, hdata.data_max_length] at hfinished
      have hcrc := (hdata.put partly.data_length.toNat
        (codecs.encode_32_bits_big_endian_8bits (tools.crc32 bytes crc))
        hfinished.2).set_length (partly.data_length.toNat + 4)
      refine ⟨hcrc.put _ _ (by simp [codecs.encode_8_bits_8bits]; omega), fun _ => ?_⟩
      change BitVec.ofNat 16 (partly.data_length.toNat + 4) ≤ response.data_max_length
      bv_omega
    · refine ⟨hdata.put _ _ (by simp [codecs.encode_8_bits_8bits]; omega), fun _ => ?_⟩
      change partly.data_length.toNat ≤ response.data_max_length.toNat
      omega

theorem process_datalog_control_fits (hmin : MINIMUM_TX_BUFFER_SIZE ≤ response.data_max_length)
    (hblank : response.data_length = 0) (self : MainHandler) (loops : LoopId → LoopHandler)
    (request : Request) :
    response.Fits (self.process_datalog_control loops request response).1 := by
  unfold process_datalog_control
  simp only
  split
  · exact blank_fits hblank _
  · split
    · simp only [CodecV1_0.encode_response_datalogging_get_setup]
      exact CodecV1_0.encode_response_fits hmin _
    · exact blank_fits hblank _
    · exact blank_fits hblank _
    · exact blank_fits hblank _
    · simp only [CodecV1_0.encode_response_datalogging_status]
      exact CodecV1_0.encode_response_fits hmin _
    · split
      · simp only [CodecV1_0.encode_response_datalogging_get_acquisition_metadata]
        exact CodecV1_0.encode_response_fits hmin _
      · exact blank_fits hblank _
    · unfold read_acquisition
      split
      · exact blank_fits hblank _
      · split
        · exact read_acquisition_fits hmin _ _ _
        · exact blank_fits hblank _
    · exact blank_fits hblank _
    · exact blank_fits hblank _

/-- The callback of the user commands puts no more bytes in the response than it is told
there is room for. -/
def RespectsLength (m_config : Config) : Prop :=
  ∀ callback, m_config.m_user_command_callback = some callback →
    ∀ subfunction payload max_size bytes,
      (callback subfunction payload max_size bytes).1.1.length ≤ max_size.toNat

theorem process_user_command_fits (self : MainHandler)
    (htx : self.m_comm_handler.tx_buffer_size = response.data_max_length)
    (hcallback : RespectsLength self.m_config) (request : Request) (memory : Memory) :
    response.Fits (self.process_user_command request response memory).1 := by
  unfold process_user_command
  split
  · exact .of_not_ok (.refl _) nofun
  · rename_i callback hset
    have hwritten : response.Inside (response.put 0 (callback request.subfunction_id
        request.payload self.m_comm_handler.tx_buffer_size memory.bytes).1.1) := by
      refine (Response.Inside.refl _).put _ _ ?_
      rw [Nat.zero_add, ← htx]
      exact hcallback callback hset _ _ _ _
    simp only
    split
    · exact .of_not_ok hwritten nofun
    · rename_i hlength
      refine ⟨⟨hwritten.data_max_length, hwritten.data⟩, fun _ => ?_⟩
      rw [← htx]
      exact BitVec.not_lt.mp hlength

theorem process_command_fits (hmin : MINIMUM_TX_BUFFER_SIZE ≤ response.data_max_length)
    (hblank : response.data_length = 0) (s : System)
    (htx : s.comm.tx_buffer_size = response.data_max_length)
    (hcallback : RespectsLength s.main.m_config) (stack : Stack) (request : Request) :
    response.Fits (process_command s stack request response).1 := by
  unfold process_command
  split
  · exact process_get_info_fits hmin s htx stack request
  · exact process_comm_control_fits hmin hblank s.main request
  · exact process_memory_control_fits s.main htx stack request s.memory
  · exact process_datalog_control_fits hmin hblank s.main s.loops request
  · exact process_user_command_fits s.main htx hcallback request s.memory
  · exact blank_fits hblank _

end

/-- No command changes the size of the transmission buffer. -/
theorem process_command_tx_buffer_size (s : System) (stack : Stack) (request : Request)
    (response : Response) :
    (process_command s stack request response).2.comm.tx_buffer_size = s.comm.tx_buffer_size := by
  have hcomm := process_command_comm s stack request response
  split at hcomm
  · rw [hcomm, CommHandler.connect]
    split
    · rfl
    · rfl
  · obtain ⟨timestamp, challenge, received, hbeat⟩ := hcomm
    rw [hbeat]
    rfl

end MainHandler

end scrutiny
