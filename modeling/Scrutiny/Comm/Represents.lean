import Scrutiny.Comm.Parser
import Scrutiny.Comm.Calls
import Scrutiny.Checksum

open foundation

namespace scrutiny

namespace protocol

/-- What can be told of a reception. -/
structure Observed where
  rx_state : RxFSMState
  command_id : uint8_t
  subfunction_id : uint8_t
  data_length : uint16_t
  payload : List uint8_t
  crc : uint32_t
  rx_error : RxError
  request_received : Bool

def Parser.observed (self : Parser) : Observed where
  rx_state := self.rx_state
  command_id := self.command_id
  subfunction_id := self.subfunction_id
  data_length := self.data_length
  payload := self.payload
  crc := self.crc
  rx_error := self.rx_error
  request_received := self.accepted

namespace CommHandler

/-- The number of bytes of the payload that came in. -/
def payload_received (self : CommHandler) : Nat :=
  match self.m_rx_state with
  | .WaitForData => self.m_per_state_data.data_bytes_received.toNat
  | .WaitForCRC => self.m_active_request.data_length.toNat
  | .WaitForProcess => self.m_active_request.data_length.toNat
  | _ => 0

def observed (self : CommHandler) : Observed where
  rx_state := self.m_rx_state
  command_id := self.m_active_request.command_id
  subfunction_id := self.m_active_request.subfunction_id
  data_length := self.m_active_request.data_length
  payload := self.m_active_request.data.slice 0 self.payload_received
  crc := self.m_crc
  rx_error := self.m_rx_error
  request_received := self.m_request_received

def gate (self : CommHandler) : Gate := ⟨self.m_rx_buffer_size, self.m_session_active⟩

/-- The value that the bytes of a CRC are collected in. -/
def crc_value (bytes : List uint8_t) : uint32_t :=
  bytes.foldl (fun crc byte => crc <<< 8 ||| byte.setWidth 32) 0

/-- The handler is where the parser is. The counters share one cell: each counts in its
own state. -/
structure Represents (comm : CommHandler) (parser : Parser) : Prop where
  rx_state : comm.m_rx_state = parser.rx_state
  command_id : comm.m_active_request.command_id = parser.command_id
  subfunction_id : comm.m_active_request.subfunction_id = parser.subfunction_id
  data_length : comm.m_active_request.data_length = parser.data_length
  payload : comm.m_active_request.data.slice 0 parser.payload.length = parser.payload
  crc : comm.m_crc = parser.crc
  rx_error : comm.m_rx_error = parser.rx_error
  request_received : comm.m_request_received = parser.accepted
  crc_received : comm.m_active_request.crc = crc_value parser.crc_bytes
  length_count : parser.rx_state = .WaitForLength →
    comm.m_per_state_data.length_bytes_received.toNat + 2 = parser.received.length
  data_count : parser.rx_state = .WaitForData →
    comm.m_per_state_data.data_bytes_received.toNat + 4 = parser.received.length
  crc_count : parser.rx_state = .WaitForCRC →
    comm.m_per_state_data.crc_bytes_received.toNat = parser.crc_bytes.length ∧
      parser.crc_bytes.length < 4
  fits : 4 < parser.received.length → parser.data_length ≤ comm.m_rx_buffer_size
  refused : parser.rx_state = .Error → parser.received.length ≤ 4
  complete : parser.rx_state = .WaitForProcess →
    4 + parser.data_length.toNat ≤ parser.received.length

theorem set_uint8_low (data : PerStateData) (value : uint8_t) :
    (data.set_uint8 value).setWidth 8 = value := by
  apply BitVec.eq_of_getLsbD_eq
  intro i hi
  have hmask : (0xFF00 : uint16_t).getLsbD i = false := by
    interval_cases i <;> rfl
  simp only [PerStateData.set_uint8, BitVec.getLsbD_setWidth, BitVec.getLsbD_or, BitVec.getLsbD_and,
    hmask, hi]
  simp
  omega

theorem command_byte (byte : uint8_t) : byte &&& 0x80 ≠ 0 ↔ ¬ byte < 0x80 := by
  revert byte
  decide

theorem encode_crc_value (a b c d : uint8_t) :
    codecs.encode_32_bits_big_endian_8bits (crc_value [a, b, c, d]) = [a, b, c, d] := by
  have hbyte (shift : Nat) (e : uint8_t)
      (hbits : ∀ i < 8, (crc_value [a, b, c, d]).getLsbD (shift + i) = e.getLsbD i) :
      codecs.byte_at (crc_value [a, b, c, d]) shift = e := by
    apply BitVec.eq_of_getLsbD_eq
    intro i hi
    simp [codecs.byte_at, hi, hbits i hi]
  simp only [codecs.encode_32_bits_big_endian_8bits, List.cons.injEq, and_true]
  refine ⟨hbyte 24 a fun i hi => ?_, hbyte 16 b fun i hi => ?_, hbyte 8 c fun i hi => ?_,
    hbyte 0 d fun i hi => ?_⟩ <;>
  · simp only [crc_value, List.foldl_cons, List.foldl_nil]
    interval_cases i <;> simp

theorem crc_value_encode (crc : uint32_t) :
    crc_value (codecs.encode_32_bits_big_endian_8bits crc) = crc := by
  apply BitVec.eq_of_getLsbD_eq
  intro i hi
  simp only [crc_value, codecs.encode_32_bits_big_endian_8bits, List.foldl_cons, List.foldl_nil,
    codecs.byte_at]
  interval_cases i <;> simp

theorem crc_value_eq_iff {bytes : List uint8_t} (hlength : bytes.length = 4) (crc : uint32_t) :
    crc_value bytes = crc ↔ bytes = codecs.encode_32_bits_big_endian_8bits crc := by
  obtain ⟨a, b, c, d, rfl⟩ : ∃ a b c d, bytes = [a, b, c, d] := by
    match bytes, hlength with
    | [a, b, c, d], _ => exact ⟨a, b, c, d, rfl⟩
  constructor
  · rintro rfl
    exact (encode_crc_value a b c d).symm
  · intro hbytes
    rw [hbytes, crc_value_encode]

theorem crc_value_append (bytes : List uint8_t) (byte : uint8_t) :
    crc_value (bytes ++ [byte]) = crc_value bytes <<< 8 ||| byte.setWidth 32 := by
  simp [crc_value]

/-- The payload that came in, in each state of reception. -/
theorem Represents.payload_received {comm : CommHandler} {parser : Parser}
    (h : Represents comm parser) : comm.payload_received = parser.payload.length := by
  have hlength := parser.length_received
  rw [CommHandler.payload_received, h.rx_state, Parser.payload, List.length_take, List.length_drop]
  cases hstate : parser.rx_state with
  | WaitForData =>
    rw [hstate] at hlength
    have hcount := h.data_count hstate
    simp only at hlength ⊢
    omega
  | WaitForCRC =>
    rw [hstate] at hlength
    simp only at hlength ⊢
    rw [h.data_length]
    omega
  | WaitForProcess =>
    have hcomplete := h.complete hstate
    simp only
    rw [h.data_length]
    omega
  | Error =>
    have hrefused := h.refused hstate
    simp only
    omega
  | WaitForCommand | WaitForSubfunction | WaitForLength =>
    rw [hstate] at hlength
    simp only at hlength ⊢
    omega

theorem Represents.observed {comm : CommHandler} {parser : Parser} (h : Represents comm parser) :
    comm.observed = parser.observed := by
  rw [CommHandler.observed, Parser.observed, h.payload_received, h.payload, h.rx_state, h.command_id,
    h.subfunction_id, h.data_length, h.crc, h.rx_error, h.request_received]

/-- The state of a handler that is in the header of a frame, or at its end. -/
theorem represents_header {comm : CommHandler} {rx_error : RxError} {received : List uint8_t}
    (hheader : received.length ≤ 4)
    (hstate : comm.m_rx_state = (Parser.reading rx_error received).rx_state)
    (hcommand : comm.m_active_request.command_id = received.getD 0 0)
    (hsubfunction : comm.m_active_request.subfunction_id = received.getD 1 0)
    (hlength : comm.m_active_request.data_length = (Parser.reading rx_error received).data_length)
    (hcrc : comm.m_crc = tools.crc32 received 0) (herror : comm.m_rx_error = rx_error)
    (hnone : comm.m_request_received = false) (hrequest : comm.m_active_request.crc = 0)
    (hcount : comm.m_rx_state = .WaitForLength →
      comm.m_per_state_data.length_bytes_received.toNat + 2 = received.length)
    (hdata : comm.m_rx_state = .WaitForData →
      comm.m_per_state_data = 0 ∧ received.length = 4)
    (hend : comm.m_rx_state = .WaitForCRC → comm.m_per_state_data.crc_bytes_received = 0) :
    Represents comm (.reading rx_error received) := by
  have hshort : (Parser.reading rx_error received).received.length ≤
      4 + (Parser.reading rx_error received).data_length.toNat := by
    have hreceived : (Parser.reading rx_error received).received = received := rfl
    rw [hreceived]
    omega
  have hpayload : (Parser.reading rx_error received).payload = [] := by
    rw [Parser.payload_of_short hshort]
    exact List.drop_eq_nil_of_le hheader
  have hreading : (Parser.reading rx_error received).rx_state ≠ .WaitForProcess := by
    simp only [Parser.rx_state, Bool.false_eq_true, if_false]
    split_ifs <;> exact RxFSMState.noConfusion
  refine ⟨hstate, hcommand, hsubfunction, hlength, by rw [hpayload]; rfl, ?_, herror, hnone, ?_,
    ?_, ?_, ?_, fun hmore => absurd hheader (Nat.not_le.mpr hmore), fun _ => hheader,
    fun hprocess => absurd hprocess hreading⟩
  · rw [Parser.crc_of_short hshort, hcrc]
  · rw [Parser.crc_bytes_of_short hshort, hrequest]
    rfl
  · rw [← hstate]
    exact hcount
  · rw [← hstate]
    intro hstate'
    obtain ⟨hzero, hfour⟩ := hdata hstate'
    rw [hzero]
    exact hfour.symm
  · rw [← hstate]
    intro hstate'
    rw [hend hstate', Parser.crc_bytes_of_short hshort]
    exact ⟨rfl, Nat.succ_pos 3⟩

theorem represents_reset (comm : CommHandler) (timebase : Timebase) :
    Represents (comm.reset_rx timebase) .empty := by
  refine represents_header (Nat.zero_le 4) rfl rfl rfl rfl rfl rfl rfl rfl ?_ ?_ ?_
  all_goals exact RxFSMState.noConfusion

namespace Represents

variable {comm : CommHandler} {rx_error : RxError} (timebase : Timebase) (data : ByteBuffer)
  (len i : Nat)

/-- Reception stops where it is. -/
theorem stop {parser : Parser} (h : Represents comm parser) (haccepted : parser.accepted = false)
    (hheader : parser.received.length ≤ 4) (error : RxError) :
    Represents { comm with m_rx_error := error, m_rx_state := .Error } (parser.stop error) := by
  have hstate : (parser.stop error).rx_state = .Error := by
    simp [Parser.stop, Parser.rx_state, haccepted]
  refine ⟨hstate.symm, h.command_id, h.subfunction_id, h.data_length, h.payload, h.crc, rfl,
    h.request_received, h.crc_received, ?_, ?_, ?_, h.fits, fun _ => hheader, ?_⟩
  all_goals
    rw [hstate]
    exact RxFSMState.noConfusion

theorem header_crc {received : List uint8_t} (h : Represents comm (.reading rx_error received))
    (hheader : received.length ≤ 4) :
    comm.m_crc = tools.crc32 received 0 ∧ comm.m_active_request.crc = 0 := by
  have hshort : (Parser.reading rx_error received).received.length ≤
      4 + (Parser.reading rx_error received).data_length.toNat := by
    have hreceived : (Parser.reading rx_error received).received = received := rfl
    rw [hreceived]
    omega
  refine ⟨h.crc.trans (Parser.crc_of_short hshort), h.crc_received.trans ?_⟩
  rw [Parser.crc_bytes_of_short hshort]
  rfl

theorem receive_command (h : Represents comm (.reading rx_error [])) :
    if data i < 0x80 then
      Represents (comm.receive_step timebase data len i).1 (.reading rx_error [data i]) ∧
        (comm.receive_step timebase data len i).2 = i + 1
    else Represents (comm.receive_step timebase data len i).1
      ((Parser.reading rx_error []).stop .InvalidCommand) := by
  have hstate : comm.m_rx_state = .WaitForCommand := h.rx_state
  obtain ⟨hcrc, hrequest⟩ := h.header_crc (Nat.zero_le 4)
  simp only [receive_step, hstate, command_byte]
  by_cases hcommand : data i < 0x80
  · rw [if_pos hcommand, if_neg (not_not.mpr hcommand)]
    refine ⟨represents_header (Nat.le_add_left 1 3) rfl rfl h.subfunction_id h.data_length rfl
      h.rx_error h.request_received hrequest ?_ ?_ ?_, rfl⟩
    all_goals exact RxFSMState.noConfusion
  · rw [if_neg hcommand, if_pos hcommand]
    have hsame : { comm with m_crc := 0 } = comm := by
      have hzero : comm.m_crc = 0 := hcrc
      rw [← hzero]
    rw [← hsame] at h
    exact h.stop rfl (Nat.zero_le 4) .InvalidCommand

theorem receive_subfunction {a : uint8_t} (h : Represents comm (.reading rx_error [a])) :
    Represents (comm.receive_step timebase data len i).1 (.reading rx_error [a, data i]) ∧
      (comm.receive_step timebase data len i).2 = i + 1 := by
  have hstate : comm.m_rx_state = .WaitForSubfunction := h.rx_state
  obtain ⟨hcrc, hrequest⟩ := h.header_crc (Nat.le_add_left 1 3)
  simp only [receive_step, hstate]
  refine ⟨represents_header (Nat.le_add_left 2 2) rfl h.command_id rfl h.data_length ?_ h.rx_error
    h.request_received hrequest ?_ ?_ ?_, trivial⟩
  · rw [hcrc]
    exact (tools.crc32_append [a] [data i] 0).symm
  · intro _
    simp only [PerStateData.length_bytes_received, set_uint8_low]
    rfl
  all_goals exact RxFSMState.noConfusion

theorem represents_length {a b c d : uint8_t} (hcommand : comm.m_active_request.command_id = a)
    (hsubfunction : comm.m_active_request.subfunction_id = b)
    (hlength : comm.m_active_request.data_length = c.setWidth 16 <<< 8 ||| d.setWidth 16)
    (hcrc : comm.m_crc = tools.crc32 [a, b, c, d] 0) (herror : comm.m_rx_error = rx_error)
    (hnone : comm.m_request_received = false) (hrequest : comm.m_active_request.crc = 0)
    (hstate : comm.m_active_request.data_length = 0 ∧ comm.m_rx_state = .WaitForCRC ∧
        comm.m_per_state_data.crc_bytes_received = 0 ∨
      comm.m_active_request.data_length ≠ 0 ∧ comm.m_rx_state = .WaitForData ∧
        comm.m_per_state_data = 0) :
    Represents comm (.reading rx_error [a, b, c, d]) := by
  have hdata : (Parser.reading rx_error [a, b, c, d]).data_length =
      comm.m_active_request.data_length := hlength.symm
  rcases hstate with ⟨hempty, hstate, hcount⟩ | ⟨hsome, hstate, hcount⟩
  · have hcrc_state : (Parser.reading rx_error [a, b, c, d]).rx_state = .WaitForCRC := by
      refine Parser.rx_state_reading_crc rx_error ?_
      rw [hdata, hempty]
      exact Nat.le_refl 0
    refine represents_header (Nat.le_refl 4) (hstate.trans hcrc_state.symm) hcommand hsubfunction
      hlength hcrc herror hnone hrequest ?_ ?_ fun _ => hcount
    · rw [hstate]
      exact RxFSMState.noConfusion
    · rw [hstate]
      exact RxFSMState.noConfusion
  · have hdata_state : (Parser.reading rx_error [a, b, c, d]).rx_state = .WaitForData := by
      refine Parser.rx_state_reading_data rx_error ?_
      rw [List.length_nil, hdata]
      exact Nat.pos_of_ne_zero fun hzero => hsome (BitVec.eq_of_toNat_eq hzero)
    refine represents_header (Nat.le_refl 4) (hstate.trans hdata_state.symm) hcommand hsubfunction
      hlength hcrc herror hnone hrequest ?_ (fun _ => ⟨hcount, rfl⟩) ?_
    · rw [hstate]
      exact RxFSMState.noConfusion
    · rw [hstate]
      exact RxFSMState.noConfusion

theorem receive_length {a b : uint8_t} (h : Represents comm (.reading rx_error [a, b])) :
    if i + 2 ≤ len then
      Represents (comm.receive_step timebase data len i).1
          (.reading rx_error [a, b, data i, data (i + 1)]) ∧
        (comm.receive_step timebase data len i).2 = i + 2
    else
      Represents (comm.receive_step timebase data len i).1 (.reading rx_error [a, b, data i]) ∧
        (comm.receive_step timebase data len i).2 = i + 1 := by
  have hstate : comm.m_rx_state = .WaitForLength := h.rx_state
  obtain ⟨hcrc, hrequest⟩ := h.header_crc (Nat.le_add_left 2 2)
  have hfirst : comm.m_per_state_data.length_bytes_received = 0 := by
    have hcount := h.length_count rfl
    exact BitVec.eq_of_toNat_eq (Nat.add_right_cancel hcount)
  have hroom : len - i ≥ 2 ↔ i + 2 ≤ len := by omega
  simp only [receive_step, hstate, hfirst, if_true, hroom]
  by_cases hboth : i + 2 ≤ len
  · simp only [hboth, if_true]
    have hcrc' : tools.crc32 (data.slice i 2) comm.m_crc =
        tools.crc32 [a, b, data i, data (i + 1)] 0 := by
      rw [hcrc]
      exact (tools.crc32_append [a, b] [data i, data (i + 1)] 0).symm
    split
    · rename_i hempty
      refine ⟨represents_length h.command_id h.subfunction_id rfl hcrc' h.rx_error
        h.request_received hrequest (.inl ⟨hempty, rfl, set_uint8_low _ 0⟩), rfl⟩
    · rename_i hsome
      refine ⟨represents_length h.command_id h.subfunction_id rfl hcrc' h.rx_error
        h.request_received hrequest (.inr ⟨hsome, rfl, rfl⟩), rfl⟩
  · simp only [hboth, if_false, Bool.false_eq_true]
    refine ⟨represents_header (Nat.le_add_left 3 1) rfl h.command_id h.subfunction_id ?_ ?_
      h.rx_error h.request_received hrequest ?_ ?_ ?_, trivial⟩
    · exact (BitVec.or_zero).symm
    · rw [hcrc]
      exact (tools.crc32_append [a, b] [data i] 0).symm
    · intro _
      simp only [PerStateData.length_bytes_received, set_uint8_low]
      rfl
    · exact RxFSMState.noConfusion
    · exact RxFSMState.noConfusion

theorem receive_length_end {a b c : uint8_t}
    (h : Represents comm (.reading rx_error [a, b, c])) :
    Represents (comm.receive_step timebase data len i).1
        (.reading rx_error [a, b, c, data i]) ∧
      (comm.receive_step timebase data len i).2 = i + 1 := by
  have hstate : comm.m_rx_state = .WaitForLength := h.rx_state
  obtain ⟨hcrc, hrequest⟩ := h.header_crc (Nat.le_add_left 3 1)
  have hcount : comm.m_per_state_data.length_bytes_received.toNat + 2 = 3 := h.length_count rfl
  have hsecond : comm.m_per_state_data.length_bytes_received ≠ 0 := by
    intro hzero
    rw [hzero] at hcount
    exact absurd hcount (by decide)
  have hlength : comm.m_active_request.data_length ||| (data i).setWidth 16 =
      c.setWidth 16 <<< 8 ||| (data i).setWidth 16 := by
    have hpart : comm.m_active_request.data_length = c.setWidth 16 <<< 8 :=
      h.data_length.trans BitVec.or_zero
    rw [hpart]
  have hcrc' : tools.crc32 (data.slice i 1) comm.m_crc = tools.crc32 [a, b, c, data i] 0 := by
    rw [hcrc]
    exact (tools.crc32_append [a, b, c] [data i] 0).symm
  simp only [receive_step, hstate, hsecond, if_false, if_true]
  split
  · rename_i hempty
    exact ⟨represents_length h.command_id h.subfunction_id hlength hcrc' h.rx_error
      h.request_received hrequest (.inl ⟨hempty, rfl, set_uint8_low _ 0⟩), rfl⟩
  · rename_i hsome
    exact ⟨represents_length h.command_id h.subfunction_id hlength hcrc' h.rx_error
      h.request_received hrequest (.inr ⟨hsome, rfl, rfl⟩), rfl⟩

/-- The state of a handler in the payload of a frame. -/
theorem represents_payload {a b c d : uint8_t} {payload : List uint8_t}
    (hcommand : comm.m_active_request.command_id = a)
    (hsubfunction : comm.m_active_request.subfunction_id = b)
    (hlength : comm.m_active_request.data_length = c.setWidth 16 <<< 8 ||| d.setWidth 16)
    (hpayload : comm.m_active_request.data.slice 0 payload.length = payload)
    (hcrc : comm.m_crc = tools.crc32 (a :: b :: c :: d :: payload) 0)
    (herror : comm.m_rx_error = rx_error) (hnone : comm.m_request_received = false)
    (hrequest : comm.m_active_request.crc = 0)
    (hfits : comm.m_active_request.data_length ≤ comm.m_rx_buffer_size)
    (hstate : payload.length < comm.m_active_request.data_length.toNat ∧
        comm.m_rx_state = .WaitForData ∧
        comm.m_per_state_data.data_bytes_received.toNat = payload.length ∨
      payload.length = comm.m_active_request.data_length.toNat ∧ comm.m_rx_state = .WaitForCRC ∧
        comm.m_per_state_data.crc_bytes_received = 0) :
    Represents comm (.reading rx_error (a :: b :: c :: d :: payload)) := by
  have hdata : (Parser.reading rx_error (a :: b :: c :: d :: payload)).data_length =
      comm.m_active_request.data_length := hlength.symm
  have hshort : (Parser.reading rx_error (a :: b :: c :: d :: payload)).received.length ≤
      4 + (Parser.reading rx_error (a :: b :: c :: d :: payload)).data_length.toNat := by
    rw [hdata]
    have hreceived : (Parser.reading rx_error (a :: b :: c :: d :: payload)).received.length =
        payload.length + 4 := rfl
    omega
  have hpayload' : (Parser.reading rx_error (a :: b :: c :: d :: payload)).payload = payload :=
    Parser.payload_of_short hshort
  have hparser : (Parser.reading rx_error (a :: b :: c :: d :: payload)).rx_state =
      comm.m_rx_state := by
    rcases hstate with ⟨hmore, hstate, -⟩ | ⟨hall, hstate, -⟩
    · rw [hstate]
      exact Parser.rx_state_reading_data rx_error (by rw [hdata]; exact hmore)
    · rw [hstate]
      exact Parser.rx_state_reading_crc rx_error (by rw [hdata]; exact Nat.le_of_eq hall.symm)
  refine ⟨hparser.symm, hcommand, hsubfunction, hlength, by rw [hpayload']; exact hpayload, ?_,
    herror, hnone, ?_, ?_, ?_, ?_, fun _ => by rw [hdata]; exact hfits, ?_, ?_⟩
  · rw [Parser.crc_of_short hshort]
    exact hcrc
  · rw [Parser.crc_bytes_of_short hshort]
    exact hrequest
  all_goals
    rw [hparser]
    rcases hstate with ⟨-, hstate, hcount⟩ | ⟨-, hstate, hcount⟩
    all_goals
      rw [hstate]
  · exact RxFSMState.noConfusion
  · exact RxFSMState.noConfusion
  · intro _
    exact congrArg (· + 4) hcount
  · exact RxFSMState.noConfusion
  · exact RxFSMState.noConfusion
  · intro _
    rw [Parser.crc_bytes_of_short hshort, hcount]
    exact ⟨rfl, Nat.succ_pos 3⟩
  all_goals exact RxFSMState.noConfusion

theorem toNat_lesser (n m : uint16_t) : (if n ≥ m then m else n).toNat = min n.toNat m.toNat := by
  split
  · rename_i hge
    exact (Nat.min_eq_right (BitVec.le_def.mp hge)).symm
  · rename_i hlt
    exact (Nat.min_eq_left (Nat.le_of_lt (BitVec.lt_def.mp (BitVec.not_le.mp hlt)))).symm

theorem receive_payload {a b c d : uint8_t} {payload : List uint8_t}
    (h : Represents comm (.reading rx_error (a :: b :: c :: d :: payload)))
    (hmore : payload.length <
      (Parser.reading rx_error (a :: b :: c :: d :: payload)).data_length.toNat)
    (hi : i < len) (hlen : len < 2 ^ 16) :
    if (Parser.reading rx_error (a :: b :: c :: d :: payload)).data_length ≤ comm.m_rx_buffer_size
    then ∃ n, 0 < n ∧ i + n ≤ len ∧ payload.length + n ≤
        (Parser.reading rx_error (a :: b :: c :: d :: payload)).data_length.toNat ∧
      Represents (comm.receive_step timebase data len i).1
        (.reading rx_error (a :: b :: c :: d :: (payload ++ data.slice i n))) ∧
      (comm.receive_step timebase data len i).2 = i + n
    else Represents (comm.receive_step timebase data len i).1
      ((Parser.reading rx_error (a :: b :: c :: d :: payload)).stop .Overflow) := by
  have hstate : comm.m_rx_state = .WaitForData :=
    h.rx_state.trans (Parser.rx_state_reading_data rx_error hmore)
  have hlength := h.data_length
  rw [← hlength] at hmore ⊢
  by_cases hfits : comm.m_active_request.data_length ≤ comm.m_rx_buffer_size
  · rw [if_pos hfits]
    have hshort : (Parser.reading rx_error (a :: b :: c :: d :: payload)).received.length ≤
        4 + (Parser.reading rx_error (a :: b :: c :: d :: payload)).data_length.toNat := by
      rw [← hlength]
      have hreceived : (Parser.reading rx_error (a :: b :: c :: d :: payload)).received.length =
          payload.length + 4 := rfl
      omega
    have hpayload : comm.m_active_request.data.slice 0 payload.length = payload := by
      have hall := h.payload
      rw [Parser.payload_of_short hshort] at hall
      exact hall
    have hcrc : comm.m_crc = tools.crc32 (a :: b :: c :: d :: payload) 0 :=
      h.crc.trans (Parser.crc_of_short hshort)
    have hrequest : comm.m_active_request.crc = 0 := by
      rw [h.crc_received, Parser.crc_bytes_of_short hshort]
      rfl
    have hcount : comm.m_per_state_data.data_bytes_received.toNat = payload.length :=
      Nat.add_right_cancel (h.data_count (h.rx_state.symm.trans hstate))
    simp only [receive_step, hstate]
    rw [if_neg (BitVec.not_lt.mpr hfits)]
    generalize hread : (if BitVec.ofNat 16 (len - i) ≥
        comm.m_active_request.data_length - comm.m_per_state_data.data_bytes_received then
        comm.m_active_request.data_length - comm.m_per_state_data.data_bytes_received
      else BitVec.ofNat 16 (len - i)) = read
    have hread' : read.toNat =
        min (len - i) (comm.m_active_request.data_length.toNat - payload.length) := by
      have hmissing : (comm.m_active_request.data_length -
          comm.m_per_state_data.data_bytes_received).toNat =
            comm.m_active_request.data_length.toNat - payload.length := by
        rw [BitVec.toNat_sub_of_le (BitVec.le_def.mpr (by omega)), hcount]
      have havailable : (BitVec.ofNat 16 (len - i)).toNat = len - i := by
        rw [BitVec.toNat_ofNat]
        exact Nat.mod_eq_of_lt (by omega)
      rw [← hread, toNat_lesser, havailable, hmissing]
    have hroom : payload.length + read.toNat ≤ comm.m_active_request.data_length.toNat := by omega
    have hbytes : (data.slice i read.toNat).length = read.toNat := Buffer.length_slice _ _ _
    have hnext : (comm.m_per_state_data.data_bytes_received + read).toNat =
        (payload ++ data.slice i read.toNat).length := by
      rw [List.length_append, hbytes, BitVec.toNat_add_of_lt, hcount]
      have := comm.m_active_request.data_length.isLt
      omega
    have hwritten : (comm.m_active_request.data.write
        comm.m_per_state_data.data_bytes_received.toNat (data.slice i read.toNat)).slice 0
          (payload ++ data.slice i read.toNat).length = payload ++ data.slice i read.toNat := by
      have happend := Buffer.slice_write_append comm.m_active_request.data 0 payload.length
        (data.slice i read.toNat)
      rw [Nat.zero_add, hpayload] at happend
      rw [hcount, List.length_append]
      exact happend
    have hcrc' : tools.crc32 (data.slice i read.toNat) comm.m_crc =
        tools.crc32 (a :: b :: c :: d :: (payload ++ data.slice i read.toNat)) 0 := by
      rw [hcrc]
      exact (tools.crc32_append (a :: b :: c :: d :: payload) (data.slice i read.toNat) 0).symm
    refine ⟨read.toNat, by omega, by omega, hroom, ?_⟩
    split
    · rename_i hall
      refine ⟨represents_payload h.command_id h.subfunction_id hlength hwritten hcrc' h.rx_error
        h.request_received hrequest hfits (.inr ⟨?_, rfl, set_uint8_low _ 0⟩), rfl⟩
      have hge : comm.m_active_request.data_length.toNat ≤
          (comm.m_per_state_data.data_bytes_received + read).toNat := BitVec.le_def.mp hall
      rw [hnext, List.length_append, hbytes] at hge
      rw [List.length_append, hbytes]
      exact Nat.le_antisymm hroom hge
    · rename_i hpart
      have hlt : (comm.m_per_state_data.data_bytes_received + read).toNat <
          comm.m_active_request.data_length.toNat := BitVec.lt_def.mp (BitVec.not_le.mp hpart)
      rw [hnext] at hlt
      exact ⟨represents_payload h.command_id h.subfunction_id hlength hwritten hcrc' h.rx_error
        h.request_received hrequest hfits (.inl ⟨hlt, rfl, hnext⟩), rfl⟩
  · rw [if_neg hfits]
    simp only [receive_step, hstate]
    rw [if_pos (BitVec.not_le.mp hfits)]
    refine h.stop rfl (Nat.not_lt.mp fun hmore => hfits ?_) .Overflow
    rw [hlength]
    exact h.fits hmore

theorem admitted_eq {parser : Parser} (hcommand : comm.m_active_request.command_id = parser.command_id)
    (hsubfunction : comm.m_active_request.subfunction_id = parser.subfunction_id)
    (hpayload : comm.m_active_request.payload = parser.payload) :
    (if comm.m_session_active = false then
        comm.received_discover_request || comm.received_connect_request
      else true) = parser.admitted comm.gate := by
  have hfour : CommControl.DISCOVER_MAGIC.length = 4 := rfl
  have hmagic : CommControl.DISCOVER_MAGIC.isPrefixOf parser.payload =
      if comm.m_active_request.data_length.toNat < 4 then false
      else comm.m_active_request.data.slice 0 4 == CommControl.DISCOVER_MAGIC := by
    rw [← hpayload, Request.payload, Bool.eq_iff_iff, List.isPrefixOf_iff_prefix,
      List.prefix_iff_eq_take, hfour, Buffer.take_slice]
    split
    · rename_i hshort
      refine iff_of_false (fun hsame => ?_) Bool.false_ne_true
      have hlength := congrArg List.length hsame
      rw [hfour, Buffer.length_slice] at hlength
      omega
    · rename_i hlong
      rw [Nat.min_eq_left (Nat.not_lt.mp hlong), beq_iff_eq]
      exact eq_comm
  simp only [received_discover_request, received_connect_request, Parser.admitted, hmagic, hcommand,
    hsubfunction, hfour, gate]
  cases comm.m_session_active with
  | true => simp
  | false =>
    by_cases hcontrol : CommandId.cast parser.command_id = some .CommControl
    · by_cases hdiscover : CommControl.Subfunction.cast parser.subfunction_id = some .Discover
      · simp [hcontrol, hdiscover]
      · by_cases hconnect : CommControl.Subfunction.cast parser.subfunction_id = some .Connect
        · simp [hcontrol, hconnect]
        · simp [hcontrol, hdiscover, hconnect]
    · simp [hcontrol]

theorem accept {parser : Parser} (hcommand : comm.m_active_request.command_id = parser.command_id)
    (hsubfunction : comm.m_active_request.subfunction_id = parser.subfunction_id)
    (hlength : comm.m_active_request.data_length = parser.data_length)
    (hpayload : comm.m_active_request.data.slice 0 parser.payload.length = parser.payload)
    (hcrc : comm.m_crc = parser.crc) (herror : comm.m_rx_error = parser.rx_error)
    (hrequest : comm.m_active_request.crc = crc_value parser.crc_bytes)
    (hfits : 4 < parser.received.length → parser.data_length ≤ comm.m_rx_buffer_size)
    (hcomplete : 4 + parser.data_length.toNat ≤ parser.received.length) :
    Represents { comm with m_rx_state := .WaitForProcess, m_request_received := true }
      { parser with accepted := true } := by
  refine ⟨rfl, hcommand, hsubfunction, hlength, hpayload, hcrc, herror, rfl, hrequest, ?_, ?_, ?_,
    hfits, ?_, fun _ => hcomplete⟩
  all_goals exact RxFSMState.noConfusion

theorem process_active_request {parser : Parser}
    (hcommand : comm.m_active_request.command_id = parser.command_id)
    (hsubfunction : comm.m_active_request.subfunction_id = parser.subfunction_id)
    (hlength : comm.m_active_request.data_length = parser.data_length)
    (hpayload : comm.m_active_request.payload = parser.payload)
    (hcrc : comm.m_crc = parser.crc) (herror : comm.m_rx_error = parser.rx_error)
    (hrequest : comm.m_active_request.crc = crc_value parser.crc_bytes)
    (hfits : 4 < parser.received.length → parser.data_length ≤ comm.m_rx_buffer_size)
    (hcomplete : 4 + parser.data_length.toNat ≤ parser.received.length) :
    Represents (comm.process_active_request timebase)
      (if parser.admitted comm.gate then { parser with accepted := true } else .empty) := by
  rw [CommHandler.process_active_request, admitted_eq hcommand hsubfunction hpayload]
  split
  · refine accept hcommand hsubfunction hlength ?_ hcrc herror hrequest hfits hcomplete
    rw [← hpayload, Request.payload, Buffer.length_slice]
  · exact represents_reset comm timebase

theorem receive_crc {a b c d : uint8_t} {payload crc : List uint8_t}
    (h : Represents comm (.reading rx_error (a :: b :: c :: d :: (payload ++ crc))))
    (hall : payload.length =
      (Parser.reading rx_error (a :: b :: c :: d :: (payload ++ crc))).data_length.toNat) :
    Represents (comm.receive_step timebase data len i).1
        ((Parser.reading rx_error (a :: b :: c :: d :: (payload ++ crc))).step comm.gate (data i)) ∧
      (comm.receive_step timebase data len i).2 = i + 1 := by
  have hwaits : (Parser.reading rx_error (a :: b :: c :: d :: (payload ++ crc))).rx_state =
      .WaitForCRC := by
    apply Parser.rx_state_reading_crc
    rw [List.length_append, ← hall]
    exact Nat.le_add_right _ _
  have hstate : comm.m_rx_state = .WaitForCRC := h.rx_state.trans hwaits
  obtain ⟨hcount, hfew⟩ := h.crc_count hwaits
  have hcrc := h.crc.trans (Parser.crc_reading_crc rx_error hall)
  have hrequest := h.crc_received
  have hpayload := h.payload
  rw [Parser.crc_bytes_reading_crc rx_error hall] at hcount hfew hrequest
  rw [Parser.payload_reading_crc rx_error hall] at hpayload
  have hnext : (comm.m_per_state_data.crc_bytes_received + 1).toNat = (crc ++ [data i]).length := by
    have hone : (1 : uint8_t).toNat = 1 := rfl
    rw [BitVec.toNat_add_of_lt, hcount, hone, List.length_append, List.length_singleton]
    omega
  have hdone : comm.m_per_state_data.crc_bytes_received + 1 ≥ 4 ↔ ¬ (crc ++ [data i]).length < 4 := by
    rw [← hnext, ge_iff_le, BitVec.le_def]
    exact Nat.not_lt.symm
  have hstep : (Parser.reading rx_error (a :: b :: c :: d :: (payload ++ crc))).step comm.gate
      (data i) = (Parser.reading rx_error (a :: b :: c :: d ::
        (payload ++ (crc ++ [data i])))).finish comm.gate :=
    Parser.step_crc rx_error comm.gate (data i) hall
  have hall' : payload.length = (Parser.reading rx_error
      (a :: b :: c :: d :: (payload ++ (crc ++ [data i])))).data_length.toNat := hall
  have hvalue : comm.m_active_request.crc <<< 8 ||| (data i).setWidth 32 =
      crc_value (crc ++ [data i]) := by
    rw [crc_value_append, hrequest]
  have hstate' : (Parser.reading rx_error (a :: b :: c :: d ::
      (payload ++ (crc ++ [data i])))).rx_state = .WaitForCRC := by
    apply Parser.rx_state_reading_crc
    rw [List.length_append, ← hall']
    exact Nat.le_add_right _ _
  have hfits : 4 < (a :: b :: c :: d :: (payload ++ (crc ++ [data i]))).length →
      (Parser.reading rx_error (a :: b :: c :: d :: (payload ++ crc))).data_length ≤
        comm.m_rx_buffer_size := by
    intro _
    by_cases hempty : payload.length = 0
    · rw [BitVec.le_def, ← hall, hempty]
      exact Nat.zero_le _
    · apply h.fits
      simp only [List.length_cons, List.length_append]
      omega
  rw [hstep, Parser.finish, Parser.crc_bytes_reading_crc rx_error hall']
  simp only [receive_step, hstate, hdone]
  by_cases hpart : (crc ++ [data i]).length < 4
  · rw [if_neg (not_not.mpr hpart), if_pos hpart]
    refine ⟨⟨?_, h.command_id, h.subfunction_id, h.data_length, ?_, ?_, h.rx_error,
      h.request_received, ?_, ?_, ?_, ?_, hfits, ?_, ?_⟩, rfl⟩
    · exact hstate'.symm
    · rw [Parser.payload_reading_crc rx_error hall']
      exact hpayload
    · exact hcrc.trans (Parser.crc_reading_crc rx_error hall').symm
    · rw [Parser.crc_bytes_reading_crc rx_error hall']
      exact hvalue
    · rw [hstate']
      exact RxFSMState.noConfusion
    · rw [hstate']
      exact RxFSMState.noConfusion
    · intro _
      rw [Parser.crc_bytes_reading_crc rx_error hall']
      refine ⟨?_, hpart⟩
      rw [PerStateData.crc_bytes_received, set_uint8_low]
      exact hnext
    · rw [hstate']
      exact RxFSMState.noConfusion
    · rw [hstate']
      exact RxFSMState.noConfusion
  · rw [if_pos hpart, if_neg hpart]
    have hfour : (crc ++ [data i]).length = 4 := by
      rw [List.length_append, List.length_singleton] at hpart ⊢
      omega
    have hsame : comm.m_crc = crc_value (crc ++ [data i]) ↔ crc ++ [data i] =
        codecs.encode_32_bits_big_endian_8bits (Parser.reading rx_error
          (a :: b :: c :: d :: (payload ++ (crc ++ [data i])))).crc := by
      rw [← crc_value_eq_iff hfour, Parser.crc_reading_crc rx_error hall', ← hcrc]
      exact eq_comm
    rw [hvalue]
    by_cases hright : comm.m_crc = crc_value (crc ++ [data i])
    · rw [if_pos hright]
      simp only [and_iff_right (hsame.mp hright)]
      refine ⟨process_active_request timebase h.command_id h.subfunction_id h.data_length ?_ ?_
        h.rx_error ?_ hfits ?_, trivial⟩
      · rw [Parser.payload_reading_crc rx_error hall']
        have hlength : comm.m_active_request.data_length.toNat = payload.length := by
          rw [h.data_length, hall]
        exact (congrArg (comm.m_active_request.data.slice 0) hlength).trans hpayload
      · exact hcrc.trans (Parser.crc_reading_crc rx_error hall').symm
      · rw [Parser.crc_bytes_reading_crc rx_error hall']
      · rw [← hall']
        simp only [List.length_cons, List.length_append]
        omega
    · rw [if_neg hright, if_neg fun hboth => hright (hsame.mpr hboth.1)]
      exact ⟨represents_reset _ timebase, rfl⟩

end Represents

end CommHandler

end protocol

end scrutiny
