import Scrutiny.Comm.Frames
import Scrutiny.Session.Gate

open foundation

namespace scrutiny.protocol

/-- What a client asks for. -/
structure Query where
  command_id : uint8_t
  subfunction_id : uint8_t
  payload : List uint8_t
  deriving DecidableEq

namespace Query

def frame (self : Query) : List uint8_t :=
  request_frame self.command_id self.subfunction_id self.payload

/-- The query can be received. -/
structure Fits (query : Query) (rx_buffer_size : uint16_t) : Prop where
  command : query.command_id < 0x80
  payload : query.payload.length ≤ rx_buffer_size.toNat

instance (query : Query) (rx_buffer_size : uint16_t) : Decidable (query.Fits rx_buffer_size) :=
  decidable_of_iff (query.command_id < 0x80 ∧ query.payload.length ≤ rx_buffer_size.toNat)
    ⟨fun h => ⟨h.1, h.2⟩, fun h => ⟨h.command, h.payload⟩⟩

/-- The query is let in without a session. -/
def Opening (self : Query) : Prop :=
  CommandId.cast self.command_id = some .CommControl ∧
    (CommControl.Subfunction.cast self.subfunction_id = some .Discover ∧
        CommControl.DISCOVER_MAGIC <+: self.payload ∨
      CommControl.Subfunction.cast self.subfunction_id = some .Connect)

instance (self : Query) : Decidable self.Opening := inferInstanceAs (Decidable (_ ∧ (_ ∧ _ ∨ _)))

theorem length_lt {self : Query} {rx_buffer_size : uint16_t} (h : self.Fits rx_buffer_size) :
    self.payload.length < 2 ^ 16 :=
  Nat.lt_of_le_of_lt h.payload rx_buffer_size.isLt

theorem frame_ne_nil (self : Query) : self.frame ≠ [] := List.cons_ne_nil _ _

/-- The frame of a query tells where it ends. -/
theorem eq_of_frame {self other : Query} (hself : self.payload.length < 2 ^ 16)
    (hother : other.payload.length < 2 ^ 16) {rest rest' : List uint8_t}
    (h : self.frame ++ rest = other.frame ++ rest') : self = other := by
  obtain ⟨command_id, subfunction_id, payload⟩ := self
  obtain ⟨command_id', subfunction_id', payload'⟩ := other
  simp only [frame, request_frame, request_body, List.append_assoc] at h
  have hheader : request_header command_id subfunction_id (BitVec.ofNat 16 payload.length) =
      request_header command_id' subfunction_id' (BitVec.ofNat 16 payload'.length) :=
    List.append_inj_left h rfl
  have hbytes := List.append_inj_right h rfl
  have hlength := congrArg
    (fun header => (Parser.reading .None (header ++ [])).data_length.toNat) hheader
  simp only [Parser.data_length_header, BitVec.toNat_ofNat, Nat.mod_eq_of_lt hself,
    Nat.mod_eq_of_lt hother] at hlength
  have hpayload : payload = payload' := List.append_inj_left hbytes hlength
  have hids : command_id = command_id' ∧ subfunction_id = subfunction_id' := by
    simp only [request_header, List.cons_append, List.cons.injEq] at hheader
    exact ⟨hheader.1, hheader.2.1⟩
  rw [hids.1, hids.2, hpayload]

end Query

def Request.query (self : Request) : Query :=
  ⟨self.command_id, self.subfunction_id, self.payload⟩

namespace Parser

variable {gate : Gate} {query : Query}

/-- A frame with bytes missing is still being read. -/
theorem parse_part (hfits : query.Fits gate.rx_buffer_size) {bytes : List uint8_t}
    (hleading : bytes <+: query.frame) (hpart : bytes.length < query.frame.length) :
    empty.parse gate bytes = reading .None bytes := by
  obtain ⟨command_id, subfunction_id, payload⟩ := query
  obtain ⟨hcommand, hpayload⟩ := hfits
  have hlength : payload.length < 2 ^ 16 := Nat.lt_of_le_of_lt hpayload gate.rx_buffer_size.isLt
  let header := request_header command_id subfunction_id (BitVec.ofNat 16 payload.length)
  have hbody : request_body command_id subfunction_id payload = header ++ payload := rfl
  have hframe : (Query.mk command_id subfunction_id payload).frame = header ++ (payload ++
      codecs.encode_32_bits_big_endian_8bits
        (tools.crc32 (request_body command_id subfunction_id payload) 0)) := by
    rw [Query.frame, request_frame, hbody, List.append_assoc]
  rw [hframe] at hleading hpart
  have hheader : header <+: header ++ (payload ++ codecs.encode_32_bits_big_endian_8bits
      (tools.crc32 (request_body command_id subfunction_id payload) 0)) := List.prefix_append _ _
  by_cases hshort : bytes.length < header.length
  · have hstart := List.prefix_of_prefix_length_le hleading hheader hshort.le
    have hstep : empty.step gate command_id = reading .None [command_id] := if_pos hcommand
    cases bytes with
    | nil => rfl
    | cons a bytes =>
      obtain ⟨rest, hrest⟩ := hstart
      obtain rfl : a = command_id := (List.cons.inj hrest).1
      rw [parse_cons, hstep]
      obtain _ | ⟨b, _ | ⟨c, _ | ⟨d, bytes⟩⟩⟩ := bytes
      · rfl
      · rfl
      · rfl
      · exact absurd (show bytes.length + 4 < 4 from hshort) (by omega)
  · obtain ⟨part, rfl⟩ :=
      List.prefix_of_prefix_length_le hheader hleading (Nat.le_of_not_lt hshort)
    rw [List.prefix_append_right_inj] at hleading
    have hdata : (reading .None header).data_length = BitVec.ofNat 16 payload.length :=
      data_length_header .None command_id subfunction_id _ []
    by_cases hmore : part.length ≤ payload.length
    · rw [parse_append, parse_header hcommand]
      refine parse_data .None gate [] part ?_ ?_
      · refine BitVec.le_def.mpr ((congrArg _ hdata).trans_le ?_)
        rw [BitVec.toNat_ofNat, Nat.mod_eq_of_lt hlength]
        exact hpayload
      · rw [List.length_nil, Nat.zero_add]
        refine hmore.trans_eq (Eq.trans ?_ (congrArg BitVec.toNat hdata.symm))
        rw [BitVec.toNat_ofNat, Nat.mod_eq_of_lt hlength]
    · obtain ⟨crc, rfl⟩ := List.prefix_of_prefix_length_le (List.prefix_append _ _) hleading
        (Nat.le_of_not_le hmore)
      rw [← List.append_assoc, ← hbody]
      apply parse_request_part hcommand hpayload
      simp only [List.length_append] at hpart
      have hfour : (codecs.encode_32_bits_big_endian_8bits
        (tools.crc32 (request_body command_id subfunction_id payload) 0)).length = 4 := rfl
      omega

theorem admitted_frame (hlength : query.payload.length < 2 ^ 16)
    (hgate : gate.session_active = true ∨ query.Opening) :
    (reading .None query.frame).admitted gate = true := by
  obtain ⟨command_id, subfunction_id, payload⟩ := query
  have hpayload := payload_request hlength .None command_id subfunction_id
    (codecs.encode_32_bits_big_endian_8bits
      (tools.crc32 (request_body command_id subfunction_id payload) 0))
  have hcommand : (reading .None (Query.mk command_id subfunction_id payload).frame).command_id =
      command_id := rfl
  have hsubfunction : (reading .None
      (Query.mk command_id subfunction_id payload).frame).subfunction_id = subfunction_id := rfl
  rw [admitted, hcommand, hsubfunction, Query.frame, request_frame, hpayload, Bool.or_eq_true]
  rcases hgate with hactive | ⟨hcontrol, ⟨hdiscover, hmagic⟩ | hconnect⟩
  · exact .inl hactive
  · right
    simpa [hcontrol, hdiscover] using hmagic
  · right
    simp [hcontrol, hconnect]

/-- A whole frame is accepted when it is let in. -/
theorem parse_frame (hfits : query.Fits gate.rx_buffer_size)
    (hgate : gate.session_active = true ∨ query.Opening) :
    (empty.parse gate query.frame).accepted = true := by
  have hlength := Query.length_lt hfits
  have hadmitted := admitted_frame hlength hgate
  rw [Query.frame, request_frame] at hadmitted ⊢
  generalize hcrc : codecs.encode_32_bits_big_endian_8bits
    (tools.crc32 (request_body query.command_id query.subfunction_id query.payload) 0) = crc
      at hadmitted ⊢
  have hfour : crc.length = 4 := by
    rw [← hcrc]
    rfl
  rw [parse_request hfits.command hfits.payload hfour, finish, crc_bytes_request hlength,
    crc_request hlength, hcrc, hfour, if_neg (Nat.lt_irrefl 4), if_pos ⟨rfl, hadmitted⟩]

end Parser

namespace CommHandler

/-- A request that waits is not being received any more. -/
def Rests (comm : CommHandler) : Prop := comm.m_request_received = true → comm.m_state = .Idle

theorem process_active_request_rests {self : CommHandler} (hidle : self.m_state = .Idle)
    (timebase : Timebase) : Rests (self.process_active_request timebase) := by
  unfold process_active_request
  generalize (if self.m_session_active = false then
    self.received_discover_request || self.received_connect_request else true) = must_process
  cases must_process with
  | true => exact fun _ => hidle
  | false => exact fun hreceived => Bool.noConfusion hreceived

theorem receive_step_rests {self : CommHandler} (hwaiting : self.m_request_received = false)
    (timebase : Timebase) (data : ByteBuffer) (len i : Nat) :
    Rests (self.receive_step timebase data len i).1 := by
  have hnone {comm : CommHandler} (hsame : comm.m_request_received = self.m_request_received) :
      Rests comm := by
    intro hreceived
    cases (hreceived.symm.trans hsame).trans hwaiting
  cases hstate : self.m_rx_state with
  | WaitForCRC =>
    simp only [receive_step, hstate]
    split
    · split
      · exact process_active_request_rests rfl timebase
      · exact fun hreceived => Bool.noConfusion hreceived
    · exact hnone rfl
  | WaitForCommand =>
    simp only [receive_step, hstate]
    split <;> exact hnone rfl
  | WaitForSubfunction =>
    simp only [receive_step, hstate]
    exact hnone rfl
  | WaitForLength =>
    simp only [receive_step, hstate]
    repeat' split
    all_goals exact hnone rfl
  | WaitForData =>
    simp only [receive_step, hstate]
    repeat' split
    all_goals exact hnone rfl
  | WaitForProcess =>
    simp only [receive_step, hstate]
    exact hnone rfl
  | Error =>
    simp only [receive_step, hstate]
    exact hnone rfl

theorem receive_loop_rests {self : CommHandler} (h : Rests self) (timebase : Timebase)
    (data : ByteBuffer) (len fuel i : Nat) :
    Rests (receive_loop timebase data len fuel self i) := by
  induction fuel generalizing self i with
  | zero => exact h
  | succ fuel ih =>
    rw [receive_loop]
    split
    · rename_i hkeeps
      have hwaiting : self.m_request_received = false := by
        simp only [keeps_receiving, Bool.and_eq_true, Bool.not_eq_true'] at hkeeps
        exact hkeeps.1.2
      exact ih (receive_step_rests hwaiting timebase data len i) _
    · exact h

/-- A request that is accepted ends the reception of its frame. -/
theorem receive_data_rests [Platform] {self : CommHandler}
    (hwaiting : self.m_request_received = false) (timebase : Timebase) (data : ByteBuffer)
    (len : uint16_t) : Rests (self.receive_data timebase data len) := by
  have hnone {comm : CommHandler} (hsame : comm.m_request_received = false) : Rests comm := by
    intro hreceived
    cases hreceived.symm.trans hsame
  have hbegin : (self.begin_reception timebase).m_request_received = false := by
    unfold begin_reception
    simp only
    split
    · rfl
    · exact hwaiting
  unfold receive_data
  split
  · exact hnone hwaiting
  · split
    · exact hnone hwaiting
    · refine receive_loop_rests (hnone ?_) timebase data len.toNat _ 0
      split
      · exact hbegin
      · exact hwaiting

/-- Bytes of a frame come in. -/
theorem Represents.receive_part [Platform] {comm : CommHandler} {taken : List uint8_t}
    {query : Query} (h : Represents comm (.reading .None taken))
    (henabled : comm.m_enabled = true) (hstate : comm.m_state ≠ .Transmitting)
    (hfits : query.Fits comm.m_rx_buffer_size) {timebase : Timebase}
    (hintime : taken = [] ∨ timebase.has_expired comm.m_last_rx_timestamp
      (Platform.comm_rx_timeout_us * 10) = false) (data : ByteBuffer) {len : uint16_t}
    (hlen : len ≠ 0) (hpart : taken.length < query.frame.length) (hleading : taken <+: query.frame) :
    Represents (comm.receive_data timebase data len)
      (Parser.empty.parse comm.gate (taken ++ data.slice 0 len.toNat)) := by
  have hresumed : comm.resumed timebase (.reading .None taken) = .reading .None taken := by
    unfold resumed
    split
    · rename_i hexpired
      rcases hintime with rfl | hintime
      · rfl
      · cases hexpired.symm.trans hintime
    · rfl
  have hafter := h.receive_data henabled hstate timebase data hlen
  have htaken : Parser.empty.parse comm.gate taken = .reading .None taken :=
    Parser.parse_part hfits hleading hpart
  rw [hresumed, ← htaken, ← Parser.parse_append] at hafter
  exact hafter

/-- A frame that is complete is the request that waits. -/
theorem Represents.query {comm : CommHandler} {gate : Gate} {query : Query}
    (h : Represents comm (Parser.empty.parse gate query.frame))
    (hfits : query.Fits gate.rx_buffer_size)
    (hgate : gate.session_active = true ∨ query.Opening) :
    comm.request_received = true ∧ comm.m_active_request.query = query := by
  obtain ⟨hreceived, hcommand, hsubfunction, hpayload⟩ := h.accepted_frame hfits.command
    hfits.payload (Parser.admitted_frame (Query.length_lt hfits) hgate)
  refine ⟨hreceived, ?_⟩
  rw [Request.query, hcommand, hsubfunction, hpayload]

end CommHandler

end scrutiny.protocol
