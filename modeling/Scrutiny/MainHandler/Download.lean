import Scrutiny.Datalogging.Reading
import Scrutiny.Datalogging.Position
import Scrutiny.MainHandler.Process
import Scrutiny.Checksum

open foundation

namespace scrutiny

open datalogging protocol

section

namespace protocol.CodecV1_0

variable [Platform]

/-- The bytes of a response to ReadAcquisition. -/
def read_payload (acquisition_id : uint16_t) (rolling_counter : uint8_t) (bytes : List uint8_t)
    (crc : Option uint32_t) : List uint8_t :=
  codecs.encode_8_bits_8bits (if crc.isSome then 1 else 0) ++
    codecs.encode_8_bits_8bits rolling_counter ++
    codecs.encode_16_bits_big_endian_8bits acquisition_id ++ bytes ++
    (crc.map codecs.encode_32_bits_big_endian_8bits).getD []

/-- The bytes of an acquisition that a response has room for. -/
def data_room (response : Response) : Nat := response.data_max_length.toNat - 4

omit [Platform] in
/-- The response is filled from its second byte on, and its first byte written last. -/
theorem payload_put_first (response : Response) (first : uint8_t) {bytes : List uint8_t}
    (hlength : response.data_length.toNat = 1 + bytes.length)
    (hbytes : response.data.slice 1 bytes.length = bytes) :
    (response.put 0 (codecs.encode_8_bits_8bits first)).payload = first :: bytes := by
  have hfirst : (response.data.write 0 [first]).slice 0 1 = [first] :=
    Buffer.slice_write_same response.data 0 [first]
  have hrest : (response.data.write 0 [first]).slice 1 bytes.length = bytes := by
    rw [Buffer.slice_write_after response.data [first] (by simp), hbytes]
  simp only [Response.payload, Response.put, codecs.encode_8_bits_8bits, hlength]
  rw [Buffer.slice_add, hfirst, Nat.zero_add, hrest, List.singleton_append]

variable {encoder : RawFormatEncoder} {response : Response}

theorem encode_read_acquisition (h : encoder.Holds) {position : Nat}
    (hposition : position ≤ encoder.stored.length)
    (response_data : ResponseData.DataLogControl.ReadAcquisition) (crc : uint32_t)
    (hmin : MINIMUM_TX_BUFFER_SIZE ≤ response.data_max_length)
    (hmax : response.data_max_length ≤ MAXIMUM_TX_BUFFER_SIZE) :
    ∃ filled : Response,
      encode_response_datalogging_read_acquisition response_data
          (encoder.set_reader (encoder.reader_at position)) crc response =
        ⟨.OK, filled, encoder.set_reader
            (encoder.reader_at (min (position + data_room response) encoder.stored.length)),
          tools.crc32 ((encoder.stored.drop position).take (data_room response)) crc,
          decide (encoder.stored.length + 4 ≤ position + data_room response)⟩ ∧
      filled.payload = read_payload response_data.acquisition_id response_data.rolling_counter
        ((encoder.stored.drop position).take (data_room response))
        (if encoder.stored.length + 4 ≤ position + data_room response then
          some (tools.crc32 ((encoder.stored.drop position).take (data_room response)) crc)
        else none) := by
  have hmin' : 32 ≤ response.data_max_length.toNat := hmin
  have hmax' : response.data_max_length.toNat ≤ 65519 := hmax
  have hroom : data_room response < 2 ^ Platform.buffer_size_bits := by
    rw [data_room]
    rcases Platform.buffer_size_supported with hbits | hbits <;> rw [hbits] <;> omega
  have hpos : 0 < data_room response := by
    rw [data_room]
    omega
  have hread := RawFormatReader.read_dilate_8bits_reads h hposition hpos
  have hfits : exceeds_tx_buffer 16 response = false := rfl
  have hmax_size : buffer_size (response.data_max_length.toNat - 4) = data_room response :=
    buffer_size_of_lt hroom
  rw [encode_response_datalogging_read_acquisition, hfits, if_neg Bool.false_ne_true]
  simp only [Response.put_data_max_length, hmax_size, hread, RawFormatEncoder.set_reader_m_reader]
  generalize hbytes : (encoder.stored.drop position).take (data_room response) = bytes
  have hlength : bytes.length = min (data_room response) (encoder.stored.length - position) := by
    rw [← hbytes, List.length_take, List.length_drop]
  generalize hheader : codecs.encode_8_bits_8bits response_data.rolling_counter ++
    codecs.encode_16_bits_big_endian_8bits response_data.acquisition_id = header
  have hheader_length : header.length = 3 := by rw [← hheader]; rfl
  generalize hpartly : ((response.put 1 header).put 4 bytes).set_length (bytes.length + 4) = partly
  have hpartly_length : partly.data_length.toNat = bytes.length + 4 := by
    rw [← hpartly, Response.set_length, BitVec.toNat_ofNat]
    rw [data_room] at hlength
    omega
  have hpartly_max : partly.data_max_length = response.data_max_length := by rw [← hpartly]; rfl
  have hpartly_data : partly.data.slice 1 (3 + bytes.length) = header ++ bytes := by
    have hbuffer : partly.data = (response.data.write 1 header).write (1 + 3) bytes := by
      rw [← hpartly]
      rfl
    rw [hbuffer, Buffer.slice_write_append, ← hheader_length, Buffer.slice_write_same]
  have hfinished : ((encoder.reader_at (min (position + data_room response)
      encoder.stored.length)).m_finished && decide (partly.data_length.toNat + 4 ≤
        partly.data_max_length.toNat)) =
      decide (encoder.stored.length + 4 ≤ position + data_room response) := by
    rw [hpartly_length, hpartly_max, RawFormatEncoder.reader_at, ← Bool.decide_and,
      decide_eq_decide, hlength, data_room]
    omega
  rw [hfinished]
  refine ⟨_, rfl, ?_⟩
  have hwhole : (header ++ bytes).length = 3 + bytes.length := by
    rw [List.length_append, hheader_length]
  by_cases hlast : encoder.stored.length + 4 ≤ position + data_room response
  · generalize hcrc_bytes : codecs.encode_32_bits_big_endian_8bits (tools.crc32 bytes crc) =
      crc_bytes
    have hcrc_length : crc_bytes.length = 4 := by rw [← hcrc_bytes]; rfl
    rw [decide_eq_true hlast, if_pos rfl, if_pos rfl, if_pos hlast]
    have hlaid : ((partly.put partly.data_length.toNat crc_bytes).set_length
        (partly.data_length.toNat + 4)).data_length.toNat =
          1 + (header ++ bytes ++ crc_bytes).length := by
      rw [Response.set_length, BitVec.toNat_ofNat, List.length_append, hwhole, hcrc_length]
      rw [data_room] at hlength
      omega
    have hdata : ((partly.put partly.data_length.toNat crc_bytes).set_length
        (partly.data_length.toNat + 4)).data.slice 1 (header ++ bytes ++ crc_bytes).length =
          header ++ bytes ++ crc_bytes := by
      have hend : partly.data_length.toNat = 1 + (3 + bytes.length) := by omega
      rw [Response.set_length_data, Response.put, hend, List.length_append, hwhole,
        Buffer.slice_write_append, hpartly_data]
    rw [payload_put_first _ 1 hlaid hdata, ← hheader, ← hcrc_bytes, read_payload]
    simp [codecs.encode_8_bits_8bits]
  · rw [decide_eq_false hlast, if_neg Bool.false_ne_true, if_neg Bool.false_ne_true, if_neg hlast]
    have hlaid : partly.data_length.toNat = 1 + (header ++ bytes).length := by omega
    rw [payload_put_first partly 0 hlaid (by rw [hwhole, hpartly_data]), ← hheader, read_payload]
    simp [codecs.encode_8_bits_8bits]

end protocol.CodecV1_0

/-- Data that is cut into chunks of one size, the last ones apart. -/
def chunks (data : List uint8_t) (room count : Nat) : List (List uint8_t) :=
  (List.range count).map fun i => (data.drop (i * room)).take room

@[simp] theorem length_chunks (data : List uint8_t) (room count : Nat) :
    (chunks data room count).length = count := by simp [chunks]

theorem getD_chunks {data : List uint8_t} {room count i : Nat} (hi : i < count) :
    (chunks data room count).getD i [] = (data.drop (i * room)).take room := by
  simp [chunks, hi]

theorem flatten_chunks (data : List uint8_t) (room count : Nat) :
    (chunks data room count).flatten = data.take (count * room) := by
  induction count with
  | zero => simp [chunks]
  | succ count ih =>
    rw [chunks, List.range_succ, List.map_append, List.flatten_append, ← chunks, ih, Nat.succ_mul,
      List.take_add]
    simp

/-- How many responses an acquisition takes: there must be room for the CRC in the last. -/
def response_count (length room : Nat) : Nat := (length + 3) / room + 1

theorem last_response_iff {length room i : Nat} (hroom : 4 ≤ room)
    (hi : i < response_count length room) :
    length + 4 ≤ min (i * room) length + room ↔ i + 1 = response_count length room := by
  have hlast : i + 1 = response_count length room ↔ length + 3 < (i + 1) * room := by
    rw [← Nat.div_lt_iff_lt_mul (by omega)]
    rw [response_count] at hi ⊢
    omega
  rw [hlast, Nat.succ_mul]
  omega

namespace MainHandler

variable [Platform]

/-- The payload of a response in the course of a reading session. -/
def session_payload (acquisition_id : uint16_t) (chunks : List (List uint8_t)) (i : Nat) :
    List uint8_t :=
  CodecV1_0.read_payload acquisition_id (BitVec.ofNat 8 i) (chunks.getD i [])
    (if i + 1 = chunks.length then some (tools.crc32 chunks.flatten 0) else none)

/-- The next request is answered with this response of the session. -/
structure AtResponse (encoder : RawFormatEncoder) (room i : Nat) (d : Datalogging) : Prop where
  reader : (start_reading d).datalogger.m_encoder =
    encoder.set_reader (encoder.reader_at (min (i * room) encoder.stored.length))
  crc : (start_reading d).read_acquisition_crc = tools.crc32 (encoder.stored.take (i * room)) 0
  rolling_counter : (start_reading d).read_acquisition_rolling_counter = BitVec.ofNat 8 i

/-- A session starts with the first response. -/
theorem at_first_response {encoder : RawFormatEncoder} (h : encoder.Holds)
    (m_reader : RawFormatReader) (room : Nat) {d : Datalogging}
    (hencoder : d.datalogger.m_encoder = encoder.set_reader m_reader)
    (hidle : d.reading_in_progress = false) : AtResponse encoder room 0 d := by
  have hstarted : start_reading d = { d with
      datalogger := { d.datalogger with m_encoder := d.datalogger.m_encoder.reset_reader }
      reading_in_progress := true
      read_acquisition_rolling_counter := 0
      read_acquisition_crc := 0 } := if_neg (by simp [hidle])
  refine ⟨?_, ?_, ?_⟩
  · rw [hstarted, Nat.zero_mul, Nat.zero_min]
    change d.datalogger.m_encoder.reset_reader = _
    rw [hencoder, RawFormatEncoder.set_reader_reset_reader, RawFormatReader.reset_reader_eq h]
  · rw [hstarted, Nat.zero_mul, List.take_zero]
    rfl
  · rw [hstarted]
    rfl

theorem in_progress_at_response {encoder : RawFormatEncoder} {room i : Nat} {d : Datalogging}
    (hreading : d.reading_in_progress = true)
    (hreader : d.datalogger.m_encoder =
      encoder.set_reader (encoder.reader_at (min (i * room) encoder.stored.length)))
    (hcrc : d.read_acquisition_crc = tools.crc32 (encoder.stored.take (i * room)) 0)
    (hcounter : d.read_acquisition_rolling_counter = BitVec.ofNat 8 i) :
    AtResponse encoder room i d := by
  have hstarted : start_reading d = d := if_pos hreading
  exact ⟨by rw [hstarted, hreader], by rw [hstarted, hcrc], by rw [hstarted, hcounter]⟩

/-- Each request is answered with the next response, and the first follows the last. -/
theorem read_acquisition_step {encoder : RawFormatEncoder} (h : encoder.Holds) {d : Datalogging}
    {response : Response} {room i : Nat} (hroom : CodecV1_0.data_room response = room)
    (hi : i < response_count encoder.stored.length room) (hat : AtResponse encoder room i d)
    (hmin : MINIMUM_TX_BUFFER_SIZE ≤ response.data_max_length)
    (hmax : response.data_max_length ≤ MAXIMUM_TX_BUFFER_SIZE)
    (howner : d.owner ≠ none) (havailable : datalogging_data_available d = true) :
    (read_acquisition d response).1.1 = .OK ∧
      (read_acquisition d response).1.2.payload = session_payload d.datalogger.get_acquisition_id
        (chunks encoder.stored room (response_count encoder.stored.length room)) i ∧
      AtResponse encoder room ((i + 1) % response_count encoder.stored.length room)
        (read_acquisition d response).2 := by
  have hmin' : 32 ≤ response.data_max_length.toNat := hmin
  have hsize : 4 ≤ room := by
    rw [← hroom, CodecV1_0.data_room]
    omega
  have hlast := last_response_iff hsize hi
  obtain ⟨filled, hencoded, hpayload⟩ := CodecV1_0.encode_read_acquisition h
    (Nat.min_le_right (i * room) encoder.stored.length)
    { acquisition_id := d.datalogger.get_acquisition_id
      rolling_counter := BitVec.ofNat 8 i }
    (tools.crc32 (encoder.stored.take (i * room)) 0) hmin hmax
  have hdrop : encoder.stored.drop (min (i * room) encoder.stored.length) =
      encoder.stored.drop (i * room) := by
    rcases Nat.le_total (i * room) encoder.stored.length with hle | hge
    · rw [Nat.min_eq_left hle]
    · rw [Nat.min_eq_right hge, List.drop_length, List.drop_eq_nil_of_le hge]
  have hcrc : tools.crc32 ((encoder.stored.drop (i * room)).take room)
      (tools.crc32 (encoder.stored.take (i * room)) 0) =
        tools.crc32 (encoder.stored.take ((i + 1) * room)) 0 := by
    rw [← tools.crc32_append, ← List.take_add, Nat.succ_mul]
  simp only [hroom, hlast, hdrop, hcrc] at hencoded hpayload
  have hid : (start_reading d).datalogger.get_acquisition_id = d.datalogger.get_acquisition_id := by
    unfold start_reading
    split <;> rfl
  rw [read_acquisition, if_neg howner, if_pos havailable]
  simp only [hid, hat.rolling_counter, hat.reader, hat.crc, hencoded]
  refine ⟨trivial, ?_, ?_⟩
  · rw [hpayload, session_payload, length_chunks, getD_chunks hi, flatten_chunks]
    by_cases hfinished : i + 1 = response_count encoder.stored.length room
    · rw [if_pos hfinished, if_pos hfinished, hfinished]
    · rw [if_neg hfinished, if_neg hfinished]
  · by_cases hfinished : i + 1 = response_count encoder.stored.length room
    · rw [hfinished, Nat.mod_self]
      exact at_first_response h _ room rfl (by simp)
    · rw [Nat.mod_eq_of_lt (by omega)]
      refine in_progress_at_response (by simp [hfinished]) ?_ rfl ?_
      · have hnext : min (min (i * room) encoder.stored.length + room) encoder.stored.length =
            min ((i + 1) * room) encoder.stored.length := by
          rw [Nat.succ_mul]
          omega
        rw [hnext]
      · rw [BitVec.ofNat_add]
        rfl

/-- A request to read the acquisition, with all that it is processed with. -/
structure ReadRequest where
  main : MainHandler
  loops : LoopId → LoopHandler
  request : Request
  response : Response

namespace ReadRequest

/-- The code of the response and its payload. -/
def answer (self : ReadRequest) : ResponseCode × List uint8_t :=
  let (result, _) := self.main.process_datalog_control self.loops self.request self.response
  (result.1, result.2.payload)

/-- What the request leaves of the datalogging. -/
def after (self : ReadRequest) : Datalogging :=
  (self.main.process_datalog_control self.loops self.request self.response).2

/-- A loop owns the datalogger, and its acquisition is completed. -/
structure Reads (r : ReadRequest) (tx_buffer_size : uint16_t) : Prop where
  configured : r.main.m_config.is_datalogging_configured = true
  subfunction : DataLogControl.Subfunction.cast r.request.subfunction_id = some .ReadAcquisition
  owner : r.main.m_datalogging.owner ≠ none
  available : datalogging_data_available r.main.m_datalogging = true
  data_max_length : r.response.data_max_length = tx_buffer_size

end ReadRequest

/-- The acquisition is still the same, and its reading is where it was. -/
structure Undisturbed (before after : Datalogging) : Prop where
  encoder : after.datalogger.m_encoder = before.datalogger.m_encoder
  acquisition_id : after.datalogger.m_acquisition_id = before.datalogger.m_acquisition_id
  reading_in_progress : after.reading_in_progress = before.reading_in_progress
  crc : after.read_acquisition_crc = before.read_acquisition_crc
  rolling_counter :
    after.read_acquisition_rolling_counter = before.read_acquisition_rolling_counter

/-- Requests that follow each other on an acquisition that stays completed. Whatever else
happens between two of them is not told. -/
def Consecutive (tx_buffer_size : uint16_t) : Datalogging → List ReadRequest → Prop
  | _, [] => True
  | d, r :: requests => Undisturbed d r.main.m_datalogging ∧ r.Reads tx_buffer_size ∧
      Consecutive tx_buffer_size r.after requests

theorem AtResponse.undisturbed {encoder : RawFormatEncoder} {room i : Nat}
    {before after : Datalogging} (hat : AtResponse encoder room i before)
    (h : Undisturbed before after) : AtResponse encoder room i after := by
  obtain ⟨hreader, hcrc, hcounter⟩ := hat
  unfold start_reading at hreader hcrc hcounter
  cases hreading : before.reading_in_progress with
  | true =>
    rw [if_pos hreading] at hreader hcrc hcounter
    exact in_progress_at_response (h.reading_in_progress.trans hreading) (h.encoder.trans hreader)
      (h.crc.trans hcrc) (h.rolling_counter.trans hcounter)
  | false =>
    have hidle : ¬ before.reading_in_progress = true := by simp [hreading]
    have hidle' : ¬ after.reading_in_progress = true := by rw [h.reading_in_progress]; exact hidle
    rw [if_neg hidle] at hreader hcrc hcounter
    refine ⟨?_, ?_, ?_⟩
    · rw [start_reading, if_neg hidle', h.encoder]
      exact hreader
    · rw [start_reading, if_neg hidle']
      exact hcrc
    · rw [start_reading, if_neg hidle']
      exact hcounter

/-- Reading leaves the acquisition as it is. -/
theorem read_acquisition_id (d : Datalogging) (response : Response) :
    (read_acquisition d response).2.datalogger.m_acquisition_id = d.datalogger.m_acquisition_id := by
  unfold read_acquisition start_reading
  split
  · rfl
  · split
    · split <;> rfl
    · rfl

theorem ReadRequest.reads {r : ReadRequest} {tx_buffer_size : uint16_t}
    (hreads : r.Reads tx_buffer_size) :
    r.main.process_datalog_control r.loops r.request r.response =
      read_acquisition r.main.m_datalogging r.response := by
  rw [process_datalog_control, if_neg (by simp [hreads.configured]), hreads.subfunction]

/-- Requests from some response of a session on. -/
theorem answers_from {encoder : RawFormatEncoder} (h : encoder.Holds) {tx_buffer_size : uint16_t}
    (hmin : MINIMUM_TX_BUFFER_SIZE ≤ tx_buffer_size)
    (hmax : tx_buffer_size ≤ MAXIMUM_TX_BUFFER_SIZE) :
    let room := tx_buffer_size.toNat - 4
    let count := response_count encoder.stored.length room
    ∀ (requests : List ReadRequest) (d : Datalogging) (i : Nat),
      Consecutive tx_buffer_size d requests → AtResponse encoder room (i % count) d →
      requests.map ReadRequest.answer = (List.range requests.length).map fun k =>
        (.OK, session_payload d.datalogger.m_acquisition_id (chunks encoder.stored room count)
          ((i + k) % count)) := by
  intro room count requests
  induction requests with
  | nil => exact fun _ _ _ _ => rfl
  | cons r requests ih =>
    rintro d i ⟨hundisturbed, hreads, hrest⟩ hat
    have hroom : CodecV1_0.data_room r.response = room := by
      rw [CodecV1_0.data_room, hreads.data_max_length]
    have hi : i % count < count := Nat.mod_lt _ (Nat.succ_pos _)
    obtain ⟨hcode, hpayload, hnext⟩ := read_acquisition_step h hroom hi
      (hat.undisturbed hundisturbed) (hreads.data_max_length ▸ hmin) (hreads.data_max_length ▸ hmax)
      hreads.owner hreads.available
    have hprocessed := ReadRequest.reads hreads
    have hid : r.after.datalogger.m_acquisition_id = d.datalogger.m_acquisition_id := by
      rw [ReadRequest.after, hprocessed, read_acquisition_id, hundisturbed.acquisition_id]
    have hanswer : r.answer = (.OK, session_payload d.datalogger.m_acquisition_id
        (chunks encoder.stored room count) (i % count)) := by
      rw [ReadRequest.answer, hprocessed, ← hundisturbed.acquisition_id]
      exact Prod.ext hcode hpayload
    have hlater : AtResponse encoder room ((i + 1) % count) r.after := by
      rw [ReadRequest.after, hprocessed, ← Nat.mod_add_mod]
      exact hnext
    rw [List.map_cons, hanswer, ih r.after (i + 1) hrest hlater, hid, List.length_cons,
      List.range_succ_eq_map, List.map_cons, List.map_map]
    congr 1
    apply List.map_congr_left
    intro k _
    simp only [Function.comp_apply, Nat.succ_eq_add_one, Nat.add_assoc, Nat.add_comm 1]

/-- An acquisition is read in sessions that are all the same: its data in order, cut into
finitely many parts, and the CRC of all of it after the last one. -/
theorem download {d : Datalogging} (h : d.datalogger.m_encoder.Holds)
    (hidle : d.reading_in_progress = false) {tx_buffer_size : uint16_t}
    (hmin : MINIMUM_TX_BUFFER_SIZE ≤ tx_buffer_size)
    (hmax : tx_buffer_size ≤ MAXIMUM_TX_BUFFER_SIZE) :
    ∃ parts : List (List uint8_t), parts ≠ [] ∧
      parts.flatten = d.datalogger.m_encoder.stored ∧
      parts.flatten.length = RawFormatReader.get_total_size_char d.datalogger.m_encoder ∧
      ∀ requests, Consecutive tx_buffer_size d requests →
        requests.map ReadRequest.answer = (List.range requests.length).map fun i =>
          (.OK, session_payload d.datalogger.m_acquisition_id parts (i % parts.length)) := by
  generalize hencoder : d.datalogger.m_encoder = encoder at h ⊢
  have hmin' : 32 ≤ tx_buffer_size.toNat := hmin
  have hwhole : encoder.stored.length ≤
      response_count encoder.stored.length (tx_buffer_size.toNat - 4) *
        (tx_buffer_size.toNat - 4) := by
    have hroom : 0 < tx_buffer_size.toNat - 4 := by omega
    have hdiv : encoder.stored.length + 3 < (encoder.stored.length + 3) /
        (tx_buffer_size.toNat - 4) * (tx_buffer_size.toNat - 4) + (tx_buffer_size.toNat - 4) :=
      Nat.lt_div_mul_add hroom
    rw [response_count, Nat.succ_mul]
    omega
  refine ⟨chunks encoder.stored (tx_buffer_size.toNat - 4)
    (response_count encoder.stored.length (tx_buffer_size.toNat - 4)), ?_, ?_, ?_, ?_⟩
  · exact List.ne_nil_of_length_pos (by rw [length_chunks]; exact Nat.succ_pos _)
  · rw [flatten_chunks, List.take_of_length_le hwhole]
  · rw [flatten_chunks, List.take_of_length_le hwhole, h.total_size]
  · intro requests hrequests
    have hat : AtResponse encoder (tx_buffer_size.toNat - 4)
        (0 % response_count encoder.stored.length (tx_buffer_size.toNat - 4)) d := by
      rw [Nat.zero_mod]
      exact at_first_response h encoder.m_reader _ hencoder hidle
    have hanswers := answers_from h hmin hmax requests d 0 hrequests hat
    simp only [Nat.zero_add] at hanswers
    rw [hanswers, length_chunks]

end MainHandler

end

section

attribute [local instance] host.platform

/-- The datalogging once a loop acquired some bytes, one by one, and reported it. -/
def completed (size : Nat) : Datalogging :=
  { host.start.datalogging with
    owner := some 0
    threadsafe_data := ⟨0, 0, .AcquisitionCompleted⟩
    datalogger := run DataLogger.call (small_datalogger size)
      ([configure (memory_configuration 1 0 0 1)] ++ List.replicate size (process_at 0) ++
        [.arm_trigger, process_at 0]) }

theorem completed_holds (size : Nat) (hsize : size < 2 ^ 32)
    (herror : (completed size).datalogger.m_encoder.m_error = false)
    (hcount : 0 < (completed size).datalogger.m_encoder.get_entry_count) :
    (completed size).datalogger.m_encoder.Holds :=
  ⟨DataLogger.run_encoder_sound (small_datalogger_initialized hsize) _, herror, hcount⟩

theorem download_of_completed :
    ∃ parts : List (List uint8_t), parts ≠ [] ∧
      parts.flatten = (completed 60).datalogger.m_encoder.stored ∧
      parts.flatten.length =
        RawFormatReader.get_total_size_char (completed 60).datalogger.m_encoder ∧
      ∀ requests, MainHandler.Consecutive 32 (completed 60) requests →
        requests.map MainHandler.ReadRequest.answer = (List.range requests.length).map fun i =>
          (.OK, MainHandler.session_payload (completed 60).datalogger.m_acquisition_id parts
            (i % parts.length)) :=
  MainHandler.download (completed_holds 60 (by decide) (by decide +kernel) (by decide +kernel)) rfl
    (by decide) (by decide)

end

end scrutiny
