import Scrutiny.Comm.Frames
import Scrutiny.Comm.Transmission
import Scrutiny.MainHandler.Download

open foundation

namespace scrutiny

open datalogging protocol

section

variable [Platform]

namespace protocol.CommHandler

omit [Platform] in
/-- The CRC of a response that is sent is that of its header and its payload. -/
theorem crc_of_sent {comm : CommHandler} {response : Response}
    (haccepted : (comm.send_response response).2 = true) :
    (comm.send_response response).1.m_active_response.crc = tools.crc32
      (header (comm.send_response response).1.m_active_response ++
        (comm.send_response response).1.m_active_response.payload) 0 := by
  obtain ⟨henabled, hidle, hfits⟩ := enabled_of_accepted haccepted
  rw [send_response_accepted henabled hidle hfits]
  simp only [add_crc_of_fits hfits]
  rw [tools.crc32_append]
  rfl

/-- The CRC of a request that comes in is that of its header and its payload. -/
theorem crc_of_received {comm : CommHandler} (henabled : comm.m_enabled = true)
    (hstate : comm.m_state ≠ .Transmitting) (start : Timebase) {chunks : List Chunk}
    (hsome : ∀ c ∈ chunks, c.len ≠ 0) (huninterrupted : Chunk.Uninterrupted chunks)
    {command_id subfunction_id : uint8_t} {payload crc : List uint8_t}
    (hcommand : command_id < 0x80) (hfits : payload.length ≤ comm.m_rx_buffer_size.toNat)
    (hpart : crc.length < 4)
    (hstream : chunks.flatMap Chunk.bytes = request_body command_id subfunction_id payload ++ crc) :
    (run receive_chunk (comm.reset_rx start) chunks).m_crc =
      tools.crc32 (request_body command_id subfunction_id payload) 0 := by
  have hall := represents_since_reset henabled hstate start hsome huninterrupted
  have hlength : payload.length < 2 ^ 16 :=
    Nat.lt_of_le_of_lt hfits comm.m_rx_buffer_size.isLt
  rw [hstream, Parser.parse_request_part hcommand hfits hpart] at hall
  rw [hall.crc, Parser.crc_request hlength]

end protocol.CommHandler

/-- The bytes of the acquisition in a response, between its header and its CRC. -/
def protocol.CodecV1_0.ReadAcquisitionResult.acquired (self : CodecV1_0.ReadAcquisitionResult) :
    List uint8_t :=
  (self.response.payload.drop 4).take
    (self.response.payload.length - if self.finished then 8 else 4)

/-- The reading of an acquisition, with the bytes of it that were put in responses. -/
structure Download where
  encoder : RawFormatEncoder
  crc : uint32_t
  bytes : List uint8_t

namespace Download

def read (self : Download)
    (answer : ResponseData.DataLogControl.ReadAcquisition × Response) : Download :=
  let result := CodecV1_0.encode_response_datalogging_read_acquisition answer.1 self.encoder
    self.crc answer.2
  ⟨result.encoder, result.crc, self.bytes ++ result.acquired⟩

/-- So many bytes of an acquisition are read. -/
structure At (acquisition : RawFormatEncoder) (position : Nat) (download : Download) : Prop where
  position_le : position ≤ acquisition.stored.length
  encoder : download.encoder = acquisition.set_reader (acquisition.reader_at position)
  bytes : download.bytes = acquisition.stored.take position
  crc : download.crc = tools.crc32 download.bytes 0

theorem At.read {encoder : RawFormatEncoder} (h : encoder.Holds) {position : Nat}
    {self : Download} (hat : At encoder position self)
    (answer : ResponseData.DataLogControl.ReadAcquisition × Response)
    (hmin : MINIMUM_TX_BUFFER_SIZE ≤ answer.2.data_max_length)
    (hmax : answer.2.data_max_length ≤ MAXIMUM_TX_BUFFER_SIZE) :
    At encoder (min (position + CodecV1_0.data_room answer.2) encoder.stored.length)
      (self.read answer) := by
  obtain ⟨filled, hencoded, hpayload⟩ :=
    CodecV1_0.encode_read_acquisition h hat.position_le answer.1 self.crc hmin hmax
  rw [← hat.encoder] at hencoded
  generalize hbytes : (encoder.stored.drop position).take (CodecV1_0.data_room answer.2) =
    bytes at hencoded hpayload
  have hacquired : (CodecV1_0.encode_response_datalogging_read_acquisition answer.1 self.encoder
      self.crc answer.2).acquired = bytes := by
    rw [hencoded, CodecV1_0.ReadAcquisitionResult.acquired, hpayload, CodecV1_0.read_payload]
    by_cases hlast : encoder.stored.length + 4 ≤ position + CodecV1_0.data_room answer.2
    · simp [hlast, codecs.encode_8_bits_8bits, codecs.encode_16_bits_big_endian_8bits,
        codecs.encode_32_bits_big_endian_8bits]
    · simp [hlast, codecs.encode_8_bits_8bits, codecs.encode_16_bits_big_endian_8bits]
  have hread : (self.read answer).bytes = encoder.stored.take
      (min (position + CodecV1_0.data_room answer.2) encoder.stored.length) := by
    rw [Download.read, hacquired, hat.bytes, ← hbytes, ← List.take_add, List.take_eq_take_min]
  refine ⟨Nat.min_le_right _ _, ?_, hread, ?_⟩
  · rw [Download.read, hencoded]
  · rw [Download.read, hacquired, tools.crc32_append, ← hat.crc, hencoded]

theorem run_at {encoder : RawFormatEncoder} (h : encoder.Holds) {position : Nat}
    {self : Download} (hat : At encoder position self)
    {answers : List (ResponseData.DataLogControl.ReadAcquisition × Response)}
    (hsizes : ∀ answer ∈ answers, MINIMUM_TX_BUFFER_SIZE ≤ answer.2.data_max_length ∧
      answer.2.data_max_length ≤ MAXIMUM_TX_BUFFER_SIZE) :
    ∃ position, At encoder position (run read self answers) := by
  induction answers generalizing position self with
  | nil => exact ⟨position, hat⟩
  | cons answer answers ih =>
    obtain ⟨hmin, hmax⟩ := hsizes answer List.mem_cons_self
    exact ih (hat.read h answer hmin hmax)
      fun other hmem => hsizes other (List.mem_cons_of_mem _ hmem)

/-- The CRC of the bytes read so far, which are the whole acquisition at the end. -/
theorem crc_of_read {encoder : RawFormatEncoder} (h : encoder.Holds)
    {answers : List (ResponseData.DataLogControl.ReadAcquisition × Response)}
    (hsizes : ∀ answer ∈ answers, MINIMUM_TX_BUFFER_SIZE ≤ answer.2.data_max_length ∧
      answer.2.data_max_length ≤ MAXIMUM_TX_BUFFER_SIZE) :
    let after := run read ⟨encoder.reset_reader, 0, []⟩ answers
    after.crc = tools.crc32 after.bytes 0 ∧ after.bytes <+: encoder.stored ∧
      (after.encoder.m_reader.m_finished = true → after.bytes = encoder.stored) := by
  intro after
  have hzero : tools.crc32 [] 0 = 0 := by decide
  have hstart : At encoder 0 ⟨encoder.reset_reader, 0, []⟩ :=
    ⟨Nat.zero_le _, RawFormatReader.reset_reader_eq h, List.take_zero.symm, hzero.symm⟩
  obtain ⟨position, hat⟩ := run_at h hstart hsizes
  refine ⟨hat.crc, ?_, fun hfinished => ?_⟩
  · rw [hat.bytes]
    exact List.take_prefix _ _
  · rw [hat.encoder, RawFormatEncoder.set_reader_m_reader, RawFormatEncoder.reader_at,
      decide_eq_true_eq] at hfinished
    rw [hat.bytes, hfinished, List.take_length]

end Download

/-- The CRC of the code is the serial one, and wherever it is accumulated piece by piece, over
a response, a request or an acquisition, it is that of the whole. -/
theorem crc32_of_whole :
    (∀ (data : List uint8_t) (start_value : uint32_t),
      tools.crc32 data start_value = tools.crc32_serial data start_value) ∧
    (∀ (data rest : List uint8_t) (start_value : uint32_t),
      tools.crc32 (data ++ rest) start_value = tools.crc32 rest (tools.crc32 data start_value)) ∧
    (∀ (comm : CommHandler) (response : Response), (comm.send_response response).2 = true →
      let active := (comm.send_response response).1.m_active_response
      active.crc = tools.crc32_serial (CommHandler.header active ++ active.payload) 0) ∧
    (∀ (comm : CommHandler) (start : Timebase) (chunks : List Chunk), comm.m_enabled = true →
      comm.m_state ≠ .Transmitting → (∀ c ∈ chunks, c.len ≠ 0) → Chunk.Uninterrupted chunks →
      ∀ (command_id subfunction_id : uint8_t) (payload crc : List uint8_t), command_id < 0x80 →
      payload.length ≤ comm.m_rx_buffer_size.toNat → crc.length < 4 →
      chunks.flatMap Chunk.bytes = request_body command_id subfunction_id payload ++ crc →
        (run CommHandler.receive_chunk (comm.reset_rx start) chunks).m_crc =
          tools.crc32_serial (request_body command_id subfunction_id payload) 0) ∧
    (∀ encoder : RawFormatEncoder, encoder.Holds →
      ∀ answers : List (ResponseData.DataLogControl.ReadAcquisition × Response),
      (∀ answer ∈ answers, MINIMUM_TX_BUFFER_SIZE ≤ answer.2.data_max_length ∧
        answer.2.data_max_length ≤ MAXIMUM_TX_BUFFER_SIZE) →
      let after := run Download.read ⟨encoder.reset_reader, 0, []⟩ answers
      after.crc = tools.crc32_serial after.bytes 0 ∧ after.bytes <+: encoder.stored ∧
        (after.encoder.m_reader.m_finished = true → after.bytes = encoder.stored)) := by
  simp only [← tools.crc32_eq_serial]
  refine ⟨fun _ _ => trivial, tools.crc32_append, fun comm response haccepted => ?_, ?_, ?_⟩
  · exact CommHandler.crc_of_sent haccepted
  · intro comm start chunks henabled hstate hsome huninterrupted command_id subfunction_id payload
      crc hcommand hfits hpart hstream
    exact CommHandler.crc_of_received henabled hstate start hsome huninterrupted hcommand hfits
      hpart hstream
  · intro encoder h answers hsizes
    exact Download.crc_of_read h hsizes

end

section

attribute [local instance] host.platform

/-- The digits of the usual check value, a response, a request to connect, and an
acquisition that is read in two responses. -/
theorem crc32_of_whole_checked :
    let digits : List uint8_t := [0x31, 0x32, 0x33, 0x34, 0x35, 0x36, 0x37, 0x38, 0x39]
    let active := (CommHandler.fresh.send_response host.response).1.m_active_response
    let chunk : Chunk := ⟨⟨0⟩, host.buffer_of (request_frame 2 4 CommControl.CONNECT_MAGIC), 8⟩
    let encoder := (completed 60).datalogger.m_encoder
    let answer : ResponseData.DataLogControl.ReadAcquisition × Response :=
      (⟨0, 0⟩, { host.response with data_max_length := 40 })
    let after := run Download.read ⟨encoder.reset_reader, 0, []⟩ [answer, answer]
    tools.crc32_serial digits 0 = 0xCBF43926 ∧
      active.crc = tools.crc32_serial (CommHandler.header active ++ active.payload) 0 ∧
      (run CommHandler.receive_chunk (CommHandler.fresh.reset_rx ⟨0⟩) [chunk]).m_crc =
        tools.crc32_serial (request_body 2 4 CommControl.CONNECT_MAGIC) 0 ∧
      after.crc = tools.crc32_serial encoder.stored 0 := by
  intro digits active chunk encoder answer after
  obtain ⟨hserial, -, hsent, hreceived, hread⟩ := crc32_of_whole
  refine ⟨?_, hsent _ _ (by decide +kernel), ?_, ?_⟩
  · rw [← hserial]
    decide +kernel
  · exact hreceived CommHandler.fresh ⟨0⟩ [chunk] (by decide) (by decide) (by decide +kernel)
      (List.isChain_singleton _) 2 4 CommControl.CONNECT_MAGIC [] (by decide) (by decide +kernel)
      (by decide) (by decide +kernel)
  · obtain ⟨hcrc, -, hwhole⟩ := hread encoder
      (completed_holds 60 (by decide) (by decide +kernel) (by decide +kernel)) [answer, answer]
      (by decide +kernel)
    rw [← hwhole (by decide +kernel)]
    exact hcrc

end

end scrutiny
