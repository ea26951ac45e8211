import Scrutiny.Comm.Represents

open foundation

namespace scrutiny.protocol.CommHandler

theorem Receives.gate {before after : CommHandler} (h : Receives before after) :
    after.gate = before.gate := by
  obtain ⟨_, _, _, _, _, _, _, _, rfl⟩ := h
  rfl

/-- What reception left unread is read as long as it goes on. -/
theorem Represents.receive_step {comm : CommHandler} {parser : Parser}
    (h : Represents comm parser) {len i : Nat} (hkeeps : comm.keeps_receiving len i = true)
    (hlen : len < 2 ^ 16) (timebase : Timebase) (data : ByteBuffer) :
    ∃ n, 0 < n ∧ i + n ≤ len ∧
      Represents (comm.receive_step timebase data len i).1
        (parser.parse comm.gate (data.slice i n)) ∧
      ((comm.receive_step timebase data len i).2 = i + n ∨
        (parser.parse comm.gate (data.slice i n)).stopped = true) := by
  simp only [keeps_receiving, Bool.and_eq_true, decide_eq_true_eq, Bool.not_eq_true', bne_iff_ne]
    at hkeeps
  obtain ⟨⟨hi, hwaiting⟩, hrunning⟩ := hkeeps
  obtain ⟨received, rx_error, stopped, accepted⟩ := parser
  obtain rfl : accepted = false := h.request_received.symm.trans hwaiting
  obtain rfl : stopped = false := by
    cases stopped with
    | false => rfl
    | true => exact absurd h.rx_state hrunning
  rcases Parser.reading_cases rx_error received with rfl | ⟨a, rfl⟩ | ⟨a, b, rfl⟩ | ⟨a, b, c, rfl⟩ |
    ⟨a, b, c, d, payload, rfl, hmore⟩ | ⟨a, b, c, d, payload, crc, rfl, hall⟩
  · have hstep := h.receive_command timebase data len i
    refine ⟨1, Nat.one_pos, hi, ?_⟩
    rw [Buffer.slice_succ, Buffer.slice_zero, Parser.parse_cons, Parser.parse_nil]
    by_cases hcommand : data i < 0x80
    · rw [if_pos hcommand] at hstep
      have hparser : (Parser.reading rx_error []).step comm.gate (data i) =
          .reading rx_error [data i] := if_pos hcommand
      rw [hparser]
      exact ⟨hstep.1, .inl hstep.2⟩
    · rw [if_neg hcommand] at hstep
      have hparser : (Parser.reading rx_error []).step comm.gate (data i) =
          (Parser.reading rx_error []).stop .InvalidCommand := if_neg hcommand
      rw [hparser]
      exact ⟨hstep, .inr rfl⟩
  · have hstep := h.receive_subfunction timebase data len i
    exact ⟨1, Nat.one_pos, hi, hstep.1, .inl hstep.2⟩
  · have hstep := h.receive_length timebase data len i
    by_cases hboth : i + 2 ≤ len
    · rw [if_pos hboth] at hstep
      exact ⟨2, Nat.two_pos, hboth, hstep.1, .inl hstep.2⟩
    · rw [if_neg hboth] at hstep
      exact ⟨1, Nat.one_pos, hi, hstep.1, .inl hstep.2⟩
  · have hstep := h.receive_length_end timebase data len i
    exact ⟨1, Nat.one_pos, hi, hstep.1, .inl hstep.2⟩
  · have hstep := h.receive_payload timebase data len i hmore hi hlen
    split at hstep
    · rename_i hfits
      obtain ⟨n, hpos, hend, hroom, hnext, hwhere⟩ := hstep
      refine ⟨n, hpos, hend, ?_, .inl hwhere⟩
      have hlength : (data.slice i n).length = n := Buffer.length_slice _ _ _
      rw [Parser.parse_data rx_error comm.gate _ _ hfits (by rw [hlength]; exact hroom)]
      exact hnext
    · rename_i hlarge
      have hparser : (Parser.reading rx_error (a :: b :: c :: d :: payload)).step comm.gate
          (data i) = (Parser.reading rx_error (a :: b :: c :: d :: payload)).stop .Overflow := by
        rw [Parser.step, Parser.rx_state_reading_data rx_error hmore]
        exact if_neg hlarge
      refine ⟨1, Nat.one_pos, hi, ?_⟩
      rw [Buffer.slice_succ, Buffer.slice_zero, Parser.parse_cons, Parser.parse_nil, hparser]
      exact ⟨hstep, .inr rfl⟩
  · have hstep := h.receive_crc timebase data len i hall
    exact ⟨1, Nat.one_pos, hi, hstep.1, .inl hstep.2⟩

/-- Reception goes on to the end of the data, unless it is over. -/
theorem not_keeps_receiving {comm : CommHandler} {parser : Parser} (h : Represents comm parser)
    {len i : Nat} (hdone : ¬ comm.keeps_receiving len i = true) :
    len ≤ i ∨ parser.accepted = true ∨ parser.stopped = true := by
  by_contra hnot
  simp only [not_or, Nat.not_le, Bool.not_eq_true] at hnot
  obtain ⟨hi, haccepted, hstopped⟩ := hnot
  apply hdone
  have hrunning : comm.m_rx_state ≠ .Error := by
    rw [h.rx_state, Parser.rx_state]
    simp only [haccepted, hstopped, Bool.false_eq_true, if_false]
    split_ifs <;> exact RxFSMState.noConfusion
  simp [keeps_receiving, hi, h.request_received, haccepted, hrunning]

theorem receive_loop_ended {comm : CommHandler} {parser : Parser} (h : Represents comm parser)
    (hended : parser.accepted = true ∨ parser.stopped = true) (timebase : Timebase)
    (data : ByteBuffer) (len fuel i : Nat) :
    receive_loop timebase data len fuel comm i = comm := by
  have hdone : ¬ comm.keeps_receiving len i = true := by
    rcases hended with haccepted | hstopped
    · simp [keeps_receiving, h.request_received, haccepted]
    · by_cases haccepted : parser.accepted = true
      · simp [keeps_receiving, h.request_received, haccepted]
      · simp [keeps_receiving, h.rx_state, Parser.rx_state, haccepted, hstopped]
  cases fuel with
  | zero => rfl
  | succ fuel => rw [receive_loop, if_neg hdone]

theorem Represents.receive_loop {comm : CommHandler} {parser : Parser}
    (h : Represents comm parser) {len i fuel : Nat} (hi : i ≤ len) (hlen : len < 2 ^ 16)
    (hfuel : len - i < fuel) (timebase : Timebase) (data : ByteBuffer) :
    Represents (CommHandler.receive_loop timebase data len fuel comm i)
      (parser.parse comm.gate (data.slice i (len - i))) := by
  induction fuel generalizing comm parser i with
  | zero => omega
  | succ fuel ih =>
    rw [CommHandler.receive_loop]
    split
    · rename_i hkeeps
      obtain ⟨n, hpos, hend, hnext, hwhere⟩ := h.receive_step hkeeps hlen timebase data
      have hgate := (receive_step_receives comm timebase data len i).gate
      have hsplit : data.slice i (len - i) =
          data.slice i n ++ data.slice (i + n) (len - (i + n)) := by
        rw [← Buffer.slice_add]
        congr 1
        omega
      generalize hresult : comm.receive_step timebase data len i = result at *
      obtain ⟨after, position⟩ := result
      simp only at hnext hwhere hgate ⊢
      rw [hsplit, Parser.parse_append]
      rcases hwhere with rfl | hstopped
      · rw [← hgate] at hnext ⊢
        exact ih hnext hend (by omega)
      · rw [Parser.parse_ended _ (.inr hstopped), receive_loop_ended hnext (.inr hstopped)]
        exact hnext
    · rename_i hdone
      rcases not_keeps_receiving h hdone with hend | hended
      · rw [Nat.sub_eq_zero_of_le hend]
        exact h
      · rw [Parser.parse_ended _ hended]
        exact h

/-- What is not the reception of bytes leaves the frame as it is, or drops it. -/
theorem Represents.congr {before after : CommHandler} {parser : Parser}
    (h : Represents before parser) (hrequest : after.m_active_request = before.m_active_request)
    (hstate : after.m_rx_state = before.m_rx_state) (herror : after.m_rx_error = before.m_rx_error)
    (hreceived : after.m_request_received = before.m_request_received)
    (hcount : after.m_per_state_data = before.m_per_state_data) (hcrc : after.m_crc = before.m_crc)
    (hsize : after.m_rx_buffer_size = before.m_rx_buffer_size) : Represents after parser where
  rx_state := hstate.trans h.rx_state
  command_id := hrequest ▸ h.command_id
  subfunction_id := hrequest ▸ h.subfunction_id
  data_length := hrequest ▸ h.data_length
  payload := hrequest ▸ h.payload
  crc := hcrc.trans h.crc
  rx_error := herror.trans h.rx_error
  request_received := hreceived.trans h.request_received
  crc_received := hrequest ▸ h.crc_received
  length_count := hcount ▸ h.length_count
  data_count := hcount ▸ h.data_count
  crc_count := hcount ▸ h.crc_count
  fits := hsize ▸ h.fits
  refused := h.refused
  complete := h.complete

theorem represents_reset_all {comm : CommHandler} (henabled : comm.m_enabled = true)
    (timebase : Timebase) : Represents (comm.reset timebase) .empty := by
  rw [CommHandler.reset]
  simp only [henabled, if_true]
  exact (represents_reset _ timebase).congr rfl rfl rfl rfl rfl rfl rfl

section

variable [Platform]

/-- The frame that a call finds when bytes come in: none after a silence. -/
def resumed (self : CommHandler) (timebase : Timebase) (parser : Parser) : Parser :=
  if timebase.has_expired self.m_last_rx_timestamp (Platform.comm_rx_timeout_us * 10) then .empty
  else parser

theorem Represents.begin_reception {comm : CommHandler} {parser : Parser}
    (h : Represents comm parser) (timebase : Timebase) :
    Represents (comm.begin_reception timebase) (comm.resumed timebase parser) := by
  unfold CommHandler.begin_reception resumed
  split
  · exact (represents_reset comm timebase).congr rfl rfl rfl rfl rfl rfl rfl
  · exact h.congr rfl rfl rfl rfl rfl rfl rfl

theorem Represents.receive_data {comm : CommHandler} {parser : Parser}
    (h : Represents comm parser) (henabled : comm.m_enabled = true)
    (hstate : comm.m_state ≠ .Transmitting) (timebase : Timebase) (data : ByteBuffer)
    {len : uint16_t} (hlen : len ≠ 0) :
    Represents (comm.receive_data timebase data len)
      ((comm.resumed timebase parser).parse comm.gate (data.slice 0 len.toNat)) := by
  have hgate : (comm.begin_reception timebase).gate = comm.gate :=
    (begin_reception_receives comm timebase).gate
  have hloop := (h.begin_reception timebase).receive_loop (Nat.zero_le len.toNat) len.isLt
    (show len.toNat - 0 < 2 * len.toNat + 1 by omega) timebase data
  rw [CommHandler.receive_data, if_neg (by rw [henabled]; decide), if_neg hstate, if_pos hlen]
  rw [hgate] at hloop
  exact hloop

end

theorem Initialized.represents {comm : CommHandler} (h : Initialized comm) :
    Represents comm .empty := by
  obtain ⟨before, rx_buffer, rx_buffer_size, tx_buffer, tx_buffer_size, timebase, seed, rfl,
    henabled⟩ := h
  rw [init, is_enabled, reset_enabled] at henabled
  exact represents_reset_all henabled timebase

theorem process_active_request_timestamp {comm : CommHandler} {timebase : Timebase}
    (hnow : comm.m_last_rx_timestamp = timebase.get_timestamp) :
    (comm.process_active_request timebase).m_last_rx_timestamp = timebase.get_timestamp := by
  unfold CommHandler.process_active_request
  generalize (if comm.m_session_active = false then
    comm.received_discover_request || comm.received_connect_request else true) = must_process
  cases must_process with
  | true => exact hnow
  | false => rfl

/-- The time of the last reception, once it is the time of the call. -/
theorem receive_step_timestamp {comm : CommHandler} {timebase : Timebase}
    (hnow : comm.m_last_rx_timestamp = timebase.get_timestamp) (data : ByteBuffer) (len i : Nat) :
    (comm.receive_step timebase data len i).1.m_last_rx_timestamp = timebase.get_timestamp := by
  cases hstate : comm.m_rx_state with
  | WaitForCRC =>
    simp only [CommHandler.receive_step, hstate]
    split
    · split
      · exact process_active_request_timestamp hnow
      · rfl
    · exact hnow
  | WaitForCommand | WaitForLength | WaitForData =>
    simp only [CommHandler.receive_step, hstate]
    split_ifs <;> exact hnow
  | WaitForSubfunction | WaitForProcess | Error =>
    simp only [CommHandler.receive_step, hstate]
    exact hnow

theorem receive_loop_timestamp {comm : CommHandler} {timebase : Timebase}
    (hnow : comm.m_last_rx_timestamp = timebase.get_timestamp) (data : ByteBuffer)
    (len fuel i : Nat) : (CommHandler.receive_loop timebase data len fuel comm i
      ).m_last_rx_timestamp = timebase.get_timestamp := by
  induction fuel generalizing comm i with
  | zero => exact hnow
  | succ fuel ih =>
    rw [CommHandler.receive_loop]
    split
    · exact ih (receive_step_timestamp hnow data len i) _
    · exact hnow

/-- The bytes of the chunks. -/
def stream (chunks : List (ByteBuffer × uint16_t)) : List uint8_t :=
  chunks.flatMap fun chunk => chunk.1.slice 0 chunk.2.toNat

theorem stream_nil : stream [] = [] := rfl

theorem stream_cons (data : ByteBuffer) (len : uint16_t) (chunks : List (ByteBuffer × uint16_t)) :
    stream ((data, len) :: chunks) = data.slice 0 len.toNat ++ stream chunks :=
  List.flatMap_cons

/-- The call brings in bytes that are not refused. -/
def takes_bytes (self : CommHandler) : Call → Bool
  | .receive_data _ len => self.m_enabled && self.m_state != .Transmitting && len != 0
  | _ => false

theorem takes_bytes_iff {comm : CommHandler} {c : Call} :
    comm.takes_bytes c = true ↔ ∃ data len, c = .receive_data data len ∧
      comm.m_enabled = true ∧ comm.m_state ≠ .Transmitting ∧ len ≠ 0 := by
  cases c with
  | receive_data data len => simp [takes_bytes, and_assoc]
  | _ => simp [takes_bytes]

/-- What becomes of the frame that is coming in when no bytes are taken: it stays, it is
dropped, or bytes are refused. -/
inductive Hears (comm after : CommHandler) : Prop where
  | keeps (hframe : ∀ parser, Represents comm parser → Represents after parser)
      (htime : after.m_last_rx_timestamp = comm.m_last_rx_timestamp)
      (henabled : after.m_enabled = false → comm.m_enabled = false)
  | drops (hframe : Represents after .empty)
  | refuses (hframe : ∀ parser, Represents comm parser →
        Represents after { parser with rx_error := .Disabled })
      (hdisabled : comm.m_enabled = false)

theorem hears_nothing (comm : CommHandler) : Hears comm comm :=
  .keeps (fun _ h => h) rfl id

theorem hears_reset (comm : CommHandler) (timebase : Timebase) :
    Hears comm (comm.reset timebase) := by
  cases henabled : comm.m_enabled with
  | true => exact .drops (represents_reset_all henabled timebase)
  | false =>
    rw [CommHandler.reset]
    simp only [henabled, Bool.false_eq_true, if_false]
    exact .keeps (fun _ h => h.congr rfl rfl rfl rfl rfl rfl rfl) rfl fun _ => henabled

theorem hears_disable (comm : CommHandler) (timebase : Timebase) :
    Hears comm (comm.disable timebase) := by
  cases henabled : comm.m_enabled with
  | true =>
    exact .drops ((represents_reset_all henabled timebase).congr rfl rfl rfl rfl rfl rfl rfl)
  | false =>
    rw [CommHandler.disable, CommHandler.reset]
    simp only [henabled, Bool.false_eq_true, if_false]
    exact .keeps (fun _ h => h.congr rfl rfl rfl rfl rfl rfl rfl) rfl fun _ => henabled

section

variable [Platform]

theorem hears_receive_data {comm : CommHandler} {data : ByteBuffer} {len : uint16_t}
    (hnone : comm.takes_bytes (.receive_data data len) = false) (timebase : Timebase) :
    Hears comm (comm.receive_data timebase data len) := by
  cases henabled : comm.m_enabled with
  | false =>
    rw [CommHandler.receive_data, if_pos henabled]
    exact .refuses (fun parser h => ⟨h.rx_state, h.command_id, h.subfunction_id, h.data_length,
      h.payload, h.crc, rfl, h.request_received, h.crc_received, h.length_count, h.data_count,
      h.crc_count, h.fits, h.refused, h.complete⟩) henabled
  | true =>
    rw [CommHandler.receive_data, if_neg (by rw [henabled]; decide)]
    by_cases hstate : comm.m_state = .Transmitting
    · rw [if_pos hstate]
      exact hears_nothing comm
    · obtain rfl : len = 0 := by simpa [takes_bytes, henabled, hstate] using hnone
      rw [if_neg hstate]
      exact hears_nothing comm

/-- A call that takes no bytes. -/
theorem hears {comm : CommHandler} {c : Call} (hnone : comm.takes_bytes c = false)
    (timebase : Timebase) : Hears comm (comm.call (timebase, c)) := by
  cases c with
  | receive_data data len => exact hears_receive_data hnone timebase
  | process =>
    rw [call]
    rcases process_cases comm timebase with hsame | hexpired
    · rw [hsame]
      exact hears_nothing comm
    · rw [hexpired]
      exact hears_reset comm timebase
  | wait_next_request => exact .drops (represents_reset comm timebase)
  | prepare_response => exact .keeps (fun _ h => h.congr rfl rfl rfl rfl rfl rfl rfl) rfl id
  | send_response response =>
    simp only [call, send_response]
    split_ifs <;> exact .keeps (fun _ h => h.congr rfl rfl rfl rfl rfl rfl rfl) rfl id
  | pop_data len =>
    rcases pop_data_cases comm timebase len with
      ⟨-, hsame⟩ | ⟨-, sent, hsends⟩ | ⟨-, sent, hfinishes⟩
    · rw [call, hsame]
      exact hears_nothing comm
    · rw [call, hsends]
      exact .keeps (fun _ h => h.congr rfl rfl rfl rfl rfl rfl rfl) rfl id
    · rw [call, hfinishes]
      exact .drops (represents_reset _ timebase)
  | heartbeat challenge =>
    simp only [call, heartbeat]
    split_ifs <;> exact .keeps (fun _ h => h.congr rfl rfl rfl rfl rfl rfl rfl) rfl id
  | connect =>
    simp only [call, connect]
    split
    · exact hears_nothing comm
    · exact .drops (represents_reset _ timebase)
  | disconnect =>
    exact .drops ((represents_reset _ timebase).congr rfl rfl rfl rfl rfl rfl rfl)
  | reset => exact hears_reset comm timebase
  | enable =>
    exact .keeps (fun _ h => h.congr rfl rfl rfl rfl rfl rfl rfl) rfl fun hdisabled => by
      cases hdisabled
  | disable => exact hears_disable comm timebase

theorem call_represents {comm : CommHandler} {parser : Parser} (h : Represents comm parser)
    (timebase : Timebase) (c : Call) : ∃ parser, Represents (comm.call (timebase, c)) parser := by
  cases htakes : comm.takes_bytes c with
  | true =>
    obtain ⟨data, len, rfl, henabled, hstate, hlen⟩ := takes_bytes_iff.mp htakes
    exact ⟨_, h.receive_data henabled hstate timebase data hlen⟩
  | false =>
    cases hears htakes timebase with
    | keeps hframe htime henabled => exact ⟨parser, hframe parser h⟩
    | drops hframe => exact ⟨.empty, hframe⟩
    | refuses hframe hdisabled => exact ⟨_, hframe parser h⟩

theorem Reachable.represents {comm : CommHandler} (h : Reachable comm) :
    ∃ parser, Represents comm parser := by
  obtain ⟨start, calls, hstart, rfl⟩ := h
  have hstep (s : CommHandler) (c : Timebase × Call) (hbefore : ∃ parser, Represents s parser) :
      ∃ parser, Represents (s.call c) parser := by
    obtain ⟨parser, hparser⟩ := hbefore
    exact call_represents hparser c.1 c.2
  exact (always_of_step hstep ⟨_, hstart.represents⟩ calls).last

/-- The calls of `receive_data` that bring in a stream cut in chunks, all at one time. -/
def receive_all (self : CommHandler) (timebase : Timebase) :
    List (ByteBuffer × uint16_t) → CommHandler
  | [] => self
  | (data, len) :: chunks => (self.receive_data timebase data len).receive_all timebase chunks

/-- No time passes between two calls at the same time. -/
theorem resumed_now {comm : CommHandler} {timebase : Timebase}
    (hnow : comm.m_last_rx_timestamp = timebase.get_timestamp)
    (htimeout : (Platform.comm_rx_timeout_us : uint32_t) * 10 ≠ 0) (parser : Parser) :
    comm.resumed timebase parser = parser := by
  have hexpired : timebase.has_expired comm.m_last_rx_timestamp
      (Platform.comm_rx_timeout_us * 10) = false := by
    have hzero : timebase.elapsed_since timebase.get_timestamp = 0 :=
      BitVec.sub_self _
    rw [hnow, Timebase.has_expired, hzero, decide_eq_false_iff_not]
    intro hle
    exact htimeout (BitVec.le_zero_iff.mp hle)
  rw [resumed, hexpired]
  rfl

theorem receive_data_timestamp {comm : CommHandler} (henabled : comm.m_enabled = true)
    (hstate : comm.m_state ≠ .Transmitting) (timebase : Timebase) (data : ByteBuffer)
    {len : uint16_t} (hlen : len ≠ 0) :
    (comm.receive_data timebase data len).m_last_rx_timestamp = timebase.get_timestamp := by
  rw [CommHandler.receive_data, if_neg (by rw [henabled]; decide), if_neg hstate, if_pos hlen]
  exact receive_loop_timestamp rfl data _ _ _

/-- One chunk, then those that come in at the same time. -/
theorem Represents.receive_all {comm : CommHandler} {parser : Parser}
    (h : Represents comm parser) (henabled : comm.m_enabled = true)
    (hstate : comm.m_state ≠ .Transmitting)
    (htimeout : (Platform.comm_rx_timeout_us : uint32_t) * 10 ≠ 0) (timebase : Timebase)
    (data : ByteBuffer) {len : uint16_t} (hlen : len ≠ 0) {chunks : List (ByteBuffer × uint16_t)}
    (hchunks : ∀ chunk ∈ chunks, chunk.2 ≠ 0) :
    Represents (comm.receive_all timebase ((data, len) :: chunks))
      ((comm.resumed timebase parser).parse comm.gate (stream ((data, len) :: chunks))) := by
  induction chunks generalizing comm parser data len with
  | nil =>
    rw [stream_cons, stream_nil, List.append_nil]
    exact h.receive_data henabled hstate timebase data hlen
  | cons chunk chunks ih =>
    obtain ⟨data', len'⟩ := chunk
    have hfirst := h.receive_data henabled hstate timebase data hlen
    have hframe := receive_data_frame comm timebase data len
    have hgate := (receive_data_receives comm timebase data len).gate
    have hnow := receive_data_timestamp henabled hstate timebase data hlen
    have hrest := ih hfirst (hframe.enabled.trans henabled) (hframe.not_transmitting hstate) data'
      (hchunks _ List.mem_cons_self) fun chunk hmem => hchunks chunk (List.mem_cons_of_mem _ hmem)
    rw [resumed_now hnow htimeout, hgate, ← Parser.parse_append] at hrest
    rw [CommHandler.receive_all, stream_cons]
    exact hrest

/-- However a stream is cut in chunks, reception makes of it what the parser makes of its
bytes. -/
theorem reception_exact {comm : CommHandler} (h : Reachable comm) (henabled : comm.m_enabled = true)
    (hstate : comm.m_state ≠ .Transmitting)
    (htimeout : (Platform.comm_rx_timeout_us : uint32_t) * 10 ≠ 0) :
    ∃ parser, Represents comm parser ∧ comm.observed = parser.observed ∧
      ∀ (timebase : Timebase) (chunks : List (ByteBuffer × uint16_t)), chunks ≠ [] →
        (∀ chunk ∈ chunks, chunk.2 ≠ 0) →
        (comm.receive_all timebase chunks).observed =
          ((comm.resumed timebase parser).parse comm.gate (stream chunks)).observed := by
  obtain ⟨parser, hparser⟩ := h.represents
  refine ⟨parser, hparser, hparser.observed, fun timebase chunks hsome hchunks => ?_⟩
  obtain ⟨⟨data, len⟩, chunks, rfl⟩ := List.exists_cons_of_ne_nil hsome
  exact (hparser.receive_all henabled hstate htimeout timebase data (hchunks _ List.mem_cons_self)
    fun chunk hmem => hchunks chunk (List.mem_cons_of_mem _ hmem)).observed

end

section

attribute [local instance] host.platform

/-- A request to connect, cut inside its length, inside its payload and inside its CRC. -/
def connect_chunks : List (ByteBuffer × uint16_t) :=
  let frame := host.frame 2 4 CommControl.CONNECT_MAGIC
  [(host.buffer_of (frame.take 3), 3), (host.buffer_of ((frame.drop 3).take 4), 4),
    (host.buffer_of (frame.drop 7), 5)]

theorem reception_exact_in_chunks :
    ∃ parser, Represents fresh parser ∧ fresh.observed = parser.observed ∧
      (fresh.receive_all ⟨0⟩ connect_chunks).observed =
        ((fresh.resumed ⟨0⟩ parser).parse fresh.gate
          (host.frame 2 4 CommControl.CONNECT_MAGIC)).observed := by
  obtain ⟨parser, hparser, hobserved, hall⟩ := reception_exact fresh_reachable (by decide)
    (by decide) (by decide)
  have hstream : stream connect_chunks = host.frame 2 4 CommControl.CONNECT_MAGIC := by
    decide +kernel
  have hlast := hall ⟨0⟩ connect_chunks (List.cons_ne_nil _ _) (by decide)
  rw [hstream] at hlast
  exact ⟨parser, hparser, hobserved, hlast⟩

end

end scrutiny.protocol.CommHandler
