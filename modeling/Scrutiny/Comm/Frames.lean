import Scrutiny.Comm.Chunks

open foundation

namespace scrutiny.protocol

def request_header (command_id subfunction_id : uint8_t) (length : uint16_t) : List uint8_t :=
  [command_id, subfunction_id] ++ codecs.encode_16_bits_big_endian_8bits length

/-- The bytes of a request that its CRC is computed on. -/
def request_body (command_id subfunction_id : uint8_t) (payload : List uint8_t) : List uint8_t :=
  request_header command_id subfunction_id (BitVec.ofNat 16 payload.length) ++ payload

/-- A request as it is sent on the wire. -/
def request_frame (command_id subfunction_id : uint8_t) (payload : List uint8_t) : List uint8_t :=
  request_body command_id subfunction_id payload ++ codecs.encode_32_bits_big_endian_8bits
    (tools.crc32 (request_body command_id subfunction_id payload) 0)

namespace Parser

variable {gate : Gate} {command_id subfunction_id : uint8_t}

theorem data_length_header (rx_error : RxError) (command_id subfunction_id : uint8_t)
    (length : uint16_t) (rest : List uint8_t) :
    (reading rx_error (request_header command_id subfunction_id length ++ rest)).data_length =
      length := by
  have hbytes : (codecs.byte_at length 8).setWidth 16 <<< 8 |||
      (codecs.byte_at length 0).setWidth 16 = length := by
    apply BitVec.eq_of_getLsbD_eq
    intro i hi
    simp only [codecs.byte_at, BitVec.getLsbD_or, BitVec.getLsbD_shiftLeft, BitVec.getLsbD_setWidth,
      BitVec.getLsbD_ushiftRight, hi, decide_true, Bool.true_and, Nat.zero_add]
    by_cases hlow : i < 8
    · simp [hlow]
    · simp [hlow, show i - 8 < 16 by omega, show i - 8 < 8 by omega,
        show 8 + (i - 8) = i by omega]
  exact hbytes

/-- No command has its highest bit set. -/
theorem parse_command_refused (hcommand : ¬ command_id < 0x80) (rest : List uint8_t) :
    (empty.parse gate (command_id :: rest)).accepted = false := by
  have hstep : empty.step gate command_id = empty.stop .InvalidCommand := if_neg hcommand
  rw [parse_cons, hstep, parse_ended gate (.inr rfl)]
  rfl

theorem parse_header (hcommand : command_id < 0x80) (length : uint16_t) :
    empty.parse gate (request_header command_id subfunction_id length) =
      reading .None (request_header command_id subfunction_id length) := by
  have hstep : empty.step gate command_id = reading .None [command_id] := if_pos hcommand
  rw [request_header, List.cons_append, parse_cons, hstep]
  rfl

/-- No payload is larger than the buffer. -/
theorem parse_overflow_refused {length : uint16_t} (hlarge : gate.rx_buffer_size < length)
    (byte : uint8_t) (rest : List uint8_t) :
    (empty.parse gate (request_header command_id subfunction_id length ++ byte :: rest)).accepted =
      false := by
  by_cases hcommand : command_id < 0x80
  · have hdata : (reading .None (request_header command_id subfunction_id length)).data_length =
        length := data_length_header .None command_id subfunction_id length []
    have hstate : (reading .None (request_header command_id subfunction_id length)).rx_state =
        .WaitForData := by
      refine rx_state_reading_data .None (Nat.lt_of_lt_of_eq ?_ (congrArg _ hdata.symm))
      exact Nat.zero_lt_of_lt (BitVec.lt_def.mp hlarge)
    have hstep : (reading .None (request_header command_id subfunction_id length)).step gate byte =
        (reading .None (request_header command_id subfunction_id length)).stop .Overflow := by
      rw [step, hstate, hdata]
      exact if_neg (BitVec.not_le.mpr hlarge)
    rw [parse_append, parse_header hcommand, parse_cons, hstep, parse_ended gate (.inr rfl)]
    rfl
  · exact parse_command_refused hcommand _

section

variable {payload : List uint8_t} (hlength : payload.length < 2 ^ 16) (rx_error : RxError)
  (command_id subfunction_id : uint8_t) (rest : List uint8_t)

include hlength

theorem data_length_request : payload.length =
    (reading rx_error (request_body command_id subfunction_id payload ++ rest)).data_length.toNat := by
  rw [request_body, List.append_assoc, data_length_header, BitVec.toNat_ofNat,
    Nat.mod_eq_of_lt hlength]

theorem payload_request :
    (reading rx_error (request_body command_id subfunction_id payload ++ rest)).payload = payload :=
  payload_reading_crc rx_error (data_length_request hlength rx_error command_id subfunction_id rest)

theorem crc_request :
    (reading rx_error (request_body command_id subfunction_id payload ++ rest)).crc =
      tools.crc32 (request_body command_id subfunction_id payload) 0 :=
  crc_reading_crc rx_error (data_length_request hlength rx_error command_id subfunction_id rest)

theorem crc_bytes_request :
    (reading rx_error (request_body command_id subfunction_id payload ++ rest)).crc_bytes = rest :=
  crc_bytes_reading_crc rx_error
    (data_length_request hlength rx_error command_id subfunction_id rest)

end

section

variable {payload : List uint8_t} (hcommand : command_id < 0x80)
  (hfits : payload.length ≤ gate.rx_buffer_size.toNat)

include hcommand hfits

theorem parse_body : empty.parse gate (request_body command_id subfunction_id payload) =
    reading .None (request_body command_id subfunction_id payload) := by
  have hlength : payload.length < 2 ^ 16 := Nat.lt_of_le_of_lt hfits gate.rx_buffer_size.isLt
  have hvalue : (BitVec.ofNat 16 payload.length).toNat = payload.length := by
    rw [BitVec.toNat_ofNat, Nat.mod_eq_of_lt hlength]
  have hdata : (reading .None (request_header command_id subfunction_id
      (BitVec.ofNat 16 payload.length))).data_length = BitVec.ofNat 16 payload.length :=
    data_length_header .None command_id subfunction_id _ []
  rw [request_body, parse_append, parse_header hcommand]
  refine parse_data .None gate [] _ ?_ ?_
  · exact BitVec.le_def.mpr ((congrArg _ hdata).trans_le (hvalue.trans_le hfits))
  · rw [List.length_nil, Nat.zero_add]
    exact ((congrArg _ hdata).trans hvalue).ge

theorem parse_request_part {crc : List uint8_t} (hpart : crc.length < 4) :
    empty.parse gate (request_body command_id subfunction_id payload ++ crc) =
      reading .None (request_body command_id subfunction_id payload ++ crc) := by
  have hlength : payload.length < 2 ^ 16 := Nat.lt_of_le_of_lt hfits gate.rx_buffer_size.isLt
  have hdata := data_length_request hlength .None command_id subfunction_id []
  have hcollected : (reading .None (request_body command_id subfunction_id payload ++ [])).parse
      gate crc = reading .None (request_body command_id subfunction_id payload ++ ([] ++ crc)) :=
    parse_crc .None gate [] crc hdata (by rw [List.length_nil, Nat.zero_add]; exact hpart)
  rw [List.append_nil, List.nil_append] at hcollected
  rw [parse_append, parse_body hcommand hfits, hcollected]

theorem parse_request {crc : List uint8_t} (hcrc : crc.length = 4) :
    empty.parse gate (request_body command_id subfunction_id payload ++ crc) =
      (reading .None (request_body command_id subfunction_id payload ++ crc)).finish gate := by
  have hlength : payload.length < 2 ^ 16 := Nat.lt_of_le_of_lt hfits gate.rx_buffer_size.isLt
  have hdata := data_length_request hlength .None command_id subfunction_id []
  rw [List.append_nil] at hdata
  rw [parse_append, parse_body hcommand hfits]
  exact parse_crc_whole .None gate hdata hcrc

end

/-- No frame is accepted with a CRC that is not its own. -/
theorem crc_of_accepted {payload crc : List uint8_t} (hcrc : crc.length = 4)
    (hlength : payload.length < 2 ^ 16) (haccepted : (empty.parse gate
      (request_body command_id subfunction_id payload ++ crc)).accepted = true) :
    crc = codecs.encode_32_bits_big_endian_8bits
      (tools.crc32 (request_body command_id subfunction_id payload) 0) := by
  by_cases hcommand : command_id < 0x80
  · by_cases hfits : payload.length ≤ gate.rx_buffer_size.toNat
    · rw [parse_request hcommand hfits hcrc, finish, crc_bytes_request hlength,
        crc_request hlength, hcrc, if_neg (Nat.lt_irrefl 4)] at haccepted
      by_contra hwrong
      rw [if_neg fun hboth => hwrong hboth.1] at haccepted
      exact Bool.false_ne_true haccepted
    · obtain ⟨byte, bytes, rfl⟩ : ∃ byte bytes, payload = byte :: bytes :=
        List.exists_cons_of_length_pos (Nat.zero_lt_of_lt (Nat.not_le.mp hfits))
      have hlarge : gate.rx_buffer_size < BitVec.ofNat 16 (byte :: bytes).length := by
        rw [BitVec.lt_def, BitVec.toNat_ofNat, Nat.mod_eq_of_lt hlength]
        exact Nat.not_le.mp hfits
      rw [request_body, List.append_assoc, List.cons_append,
        parse_overflow_refused hlarge] at haccepted
      exact absurd haccepted Bool.false_ne_true
  · rw [request_body, request_header, List.append_assoc, List.append_assoc, List.cons_append,
      parse_command_refused hcommand] at haccepted
    exact absurd haccepted Bool.false_ne_true

end Parser

/-- Bytes handed over to `receive_data` at some time. -/
structure Chunk where
  timebase : Timebase
  data : ByteBuffer
  len : uint16_t

namespace Chunk

def bytes (self : Chunk) : List uint8_t := self.data.slice 0 self.len.toNat

/-- No byte comes in later than the timeout after the chunk before it. -/
def Uninterrupted [Platform] (chunks : List Chunk) : Prop :=
  chunks.IsChain fun before after => after.timebase.has_expired before.timebase.get_timestamp
    (Platform.comm_rx_timeout_us * 10) = false

end Chunk

namespace CommHandler

variable {comm : CommHandler}

/-- A frame with its CRC that is let through becomes a request. -/
theorem Represents.accepted_frame {gate : Gate} {command_id subfunction_id : uint8_t}
    {payload : List uint8_t} (h : Represents comm (Parser.empty.parse gate
      (request_frame command_id subfunction_id payload)))
    (hcommand : command_id < 0x80) (hfits : payload.length ≤ gate.rx_buffer_size.toNat)
    (hadmitted : (Parser.reading .None
      (request_frame command_id subfunction_id payload)).admitted gate = true) :
    comm.request_received = true ∧ comm.m_active_request.command_id = command_id ∧
      comm.m_active_request.subfunction_id = subfunction_id ∧
      comm.m_active_request.payload = payload := by
  have hlength : payload.length < 2 ^ 16 := Nat.lt_of_le_of_lt hfits gate.rx_buffer_size.isLt
  generalize hcrc : codecs.encode_32_bits_big_endian_8bits
    (tools.crc32 (request_body command_id subfunction_id payload) 0) = crc
  have hfour : crc.length = 4 := by rw [← hcrc]; rfl
  have hframe : request_frame command_id subfunction_id payload =
      request_body command_id subfunction_id payload ++ crc := by rw [request_frame, hcrc]
  have hfinish : Parser.empty.parse gate (request_frame command_id subfunction_id payload) =
      { Parser.reading .None (request_body command_id subfunction_id payload ++ crc) with
        accepted := true } := by
    rw [hframe, Parser.parse_request hcommand hfits hfour, Parser.finish,
      Parser.crc_bytes_request hlength, Parser.crc_request hlength, hcrc, hfour,
      if_neg (Nat.lt_irrefl 4), ← hframe, if_pos ⟨rfl, hadmitted⟩]
  rw [hfinish] at h
  refine ⟨h.request_received, h.command_id, h.subfunction_id, ?_⟩
  have hpayload := h.payload
  have hdata := h.data_length
  have hread := Parser.payload_request hlength .None command_id subfunction_id crc
  have hcount := Parser.data_length_request hlength .None command_id subfunction_id crc
  rw [Request.payload, hdata]
  refine Eq.trans ?_ (hpayload.trans hread)
  exact congrArg (comm.m_active_request.data.slice 0)
    (hcount.symm.trans (congrArg List.length hread).symm)

variable [Platform] {parser : Parser}

def receive_chunk (self : CommHandler) (chunk : Chunk) : CommHandler :=
  self.receive_data chunk.timebase chunk.data chunk.len

/-- Reception goes on from chunk to chunk, in which ever way the stream is cut. -/
theorem Represents.receive_chunks (h : Represents comm parser) (henabled : comm.m_enabled = true)
    (hstate : comm.m_state ≠ .Transmitting) {chunk : Chunk} {chunks : List Chunk}
    (hsome : ∀ c ∈ chunk :: chunks, c.len ≠ 0)
    (huninterrupted : Chunk.Uninterrupted (chunk :: chunks)) :
    Represents (run receive_chunk comm (chunk :: chunks))
      ((comm.resumed chunk.timebase parser).parse comm.gate
        ((chunk :: chunks).flatMap Chunk.bytes)) := by
  induction chunks generalizing comm parser chunk with
  | nil =>
    rw [List.flatMap_singleton]
    exact h.receive_data henabled hstate chunk.timebase chunk.data (hsome _ List.mem_cons_self)
  | cons next chunks ih =>
    have hlen : chunk.len ≠ 0 := hsome _ List.mem_cons_self
    have hfirst := h.receive_data henabled hstate chunk.timebase chunk.data hlen
    have hframe := receive_data_frame comm chunk.timebase chunk.data chunk.len
    have hgate := (receive_data_receives comm chunk.timebase chunk.data chunk.len).gate
    have hnow := receive_data_timestamp henabled hstate chunk.timebase chunk.data hlen
    obtain ⟨hsoon, huninterrupted⟩ := List.isChain_cons_cons.mp huninterrupted
    have hrest := ih hfirst (hframe.enabled.trans henabled) (hframe.not_transmitting hstate)
      (fun c hmem => hsome c (List.mem_cons_of_mem _ hmem)) huninterrupted
    rw [resumed, hnow, if_neg (by rw [hsoon]; decide), hgate, ← Parser.parse_append] at hrest
    rw [run_cons, List.flatMap_cons]
    exact hrest

/-- What comes in after a reset is read as a frame of its own. -/
theorem represents_since_reset (henabled : comm.m_enabled = true)
    (hstate : comm.m_state ≠ .Transmitting) (start : Timebase) {chunks : List Chunk}
    (hsome : ∀ c ∈ chunks, c.len ≠ 0) (huninterrupted : Chunk.Uninterrupted chunks) :
    Represents (run receive_chunk (comm.reset_rx start) chunks)
      (Parser.empty.parse comm.gate (chunks.flatMap Chunk.bytes)) := by
  have hreset := represents_reset comm start
  have hidle : (comm.reset_rx start).m_state ≠ .Transmitting :=
    (reset_rx_frame comm start).not_transmitting hstate
  cases chunks with
  | nil => exact hreset
  | cons chunk chunks =>
    have hall := hreset.receive_chunks henabled hidle hsome huninterrupted
    have hempty : (comm.reset_rx start).resumed chunk.timebase .empty = .empty := by
      unfold resumed
      exact ite_self _
    rw [hempty] at hall
    exact hall

end CommHandler

end scrutiny.protocol
