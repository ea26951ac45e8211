import Scrutiny.Comm.Frames
import Scrutiny.Host

open foundation

namespace scrutiny.protocol.CommHandler

/-- Two handlers that make the same of all that comes in. -/
structure Alike (comm other : CommHandler) : Prop where
  represents : ∃ parser, Represents comm parser ∧ Represents other parser
  gate : other.gate = comm.gate
  enabled : comm.m_enabled = true
  enabled_other : other.m_enabled = true
  not_transmitting : comm.m_state ≠ .Transmitting
  not_transmitting_other : other.m_state ≠ .Transmitting
  last_rx_timestamp : other.m_last_rx_timestamp = comm.m_last_rx_timestamp

/-- What reception made of the bytes that came in: the FSM state, the request, its payload,
both CRCs, the error and whether a request is received. -/
def reception (self : CommHandler) : Observed × uint32_t :=
  (self.observed, self.m_active_request.crc)

theorem Alike.reception {comm other : CommHandler} (h : Alike comm other) :
    comm.reception = other.reception := by
  obtain ⟨parser, hcomm, hother⟩ := h.represents
  exact Prod.ext (hcomm.observed.trans hother.observed.symm)
    (hcomm.crc_received.trans hother.crc_received.symm)

section

variable [Platform] {comm other : CommHandler}

/-- The first chunk makes handlers alike that go on with the same frame. -/
theorem alike_of_resumed {parser parser' : Parser} (h : Represents comm parser)
    (h' : Represents other parser') (hgate : other.gate = comm.gate)
    (henabled : comm.m_enabled = true) (henabled' : other.m_enabled = true)
    (hstate : comm.m_state ≠ .Transmitting) (hstate' : other.m_state ≠ .Transmitting)
    {chunk : Chunk} (hlen : chunk.len ≠ 0)
    (hresumed : other.resumed chunk.timebase parser' = comm.resumed chunk.timebase parser) :
    Alike (comm.receive_chunk chunk) (other.receive_chunk chunk) := by
  have hframe := receive_data_frame comm chunk.timebase chunk.data chunk.len
  have hframe' := receive_data_frame other chunk.timebase chunk.data chunk.len
  have hreceived := h.receive_data henabled hstate chunk.timebase chunk.data hlen
  have hreceived' := h'.receive_data henabled' hstate' chunk.timebase chunk.data hlen
  have hnow := receive_data_timestamp henabled hstate chunk.timebase chunk.data hlen
  have hnow' := receive_data_timestamp henabled' hstate' chunk.timebase chunk.data hlen
  have hkept := (receive_data_receives comm chunk.timebase chunk.data chunk.len).gate
  have hkept' := (receive_data_receives other chunk.timebase chunk.data chunk.len).gate
  rw [hresumed, hgate] at hreceived'
  exact ⟨⟨_, hreceived, hreceived'⟩, hkept'.trans (hgate.trans hkept.symm),
    hframe.enabled.trans henabled, hframe'.enabled.trans henabled',
    hframe.not_transmitting hstate, hframe'.not_transmitting hstate', hnow'.trans hnow.symm⟩

theorem Alike.receive_chunk (h : Alike comm other) {chunk : Chunk} (hlen : chunk.len ≠ 0) :
    Alike (comm.receive_chunk chunk) (other.receive_chunk chunk) := by
  obtain ⟨parser, hcomm, hother⟩ := h.represents
  refine alike_of_resumed hcomm hother h.gate h.enabled h.enabled_other h.not_transmitting
    h.not_transmitting_other hlen ?_
  rw [resumed, resumed, h.last_rx_timestamp]

theorem Alike.receive_chunks (h : Alike comm other) {chunks : List Chunk}
    (hsome : ∀ c ∈ chunks, c.len ≠ 0) :
    Alike (run CommHandler.receive_chunk comm chunks)
      (run CommHandler.receive_chunk other chunks) := by
  induction chunks generalizing comm other with
  | nil => exact h
  | cons chunk chunks ih =>
    exact ih (h.receive_chunk (hsome _ List.mem_cons_self))
      fun c hmem => hsome c (List.mem_cons_of_mem _ hmem)

/-- Whatever comes in from now on, reception makes of it what it makes of it after a reset, and
a frame that is let through becomes a request. -/
structure StartsAfresh (comm : CommHandler) (now : Timebase) : Prop where
  as_reset : ∀ (data : ByteBuffer) (len : uint16_t) (chunks : List Chunk),
    (∀ c ∈ ⟨now, data, len⟩ :: chunks, c.len ≠ 0) →
      ∀ (other : CommHandler) (restart : Timebase), other.m_enabled = true →
        other.m_state ≠ .Transmitting → other.gate = comm.gate →
          (run receive_chunk comm (⟨now, data, len⟩ :: chunks)).reception =
            (run receive_chunk (other.reset_rx restart) (⟨now, data, len⟩ :: chunks)).reception
  accepts : ∀ (data : ByteBuffer) (len : uint16_t) (chunks : List Chunk),
    (∀ c ∈ ⟨now, data, len⟩ :: chunks, c.len ≠ 0) →
      ∀ (command_id subfunction_id : uint8_t) (payload : List uint8_t), command_id < 0x80 →
        payload.length ≤ comm.m_rx_buffer_size.toNat →
        (Parser.reading .None (request_frame command_id subfunction_id payload)).admitted
          comm.gate →
        Chunk.Uninterrupted (⟨now, data, len⟩ :: chunks) →
        (⟨now, data, len⟩ :: chunks : List Chunk).flatMap Chunk.bytes =
          request_frame command_id subfunction_id payload →
        let after := run receive_chunk comm (⟨now, data, len⟩ :: chunks)
        after.request_received = true ∧ after.m_active_request.command_id = command_id ∧
          after.m_active_request.subfunction_id = subfunction_id ∧
          after.m_active_request.payload = payload

theorem starts_afresh {parser : Parser} (h : Represents comm parser)
    (henabled : comm.m_enabled = true) (hstate : comm.m_state ≠ .Transmitting) {now : Timebase}
    (hempty : comm.resumed now parser = .empty) : StartsAfresh comm now where
  as_reset data len chunks hsome other restart henabled' hstate' hgate := by
    have hreset : (other.reset_rx restart).resumed now .empty = .empty := by
      unfold resumed
      exact ite_self _
    have hfirst : Alike (comm.receive_chunk ⟨now, data, len⟩)
        ((other.reset_rx restart).receive_chunk ⟨now, data, len⟩) :=
      alike_of_resumed h (represents_reset other restart) hgate henabled henabled' hstate
        ((reset_rx_frame other restart).not_transmitting hstate') (hsome _ List.mem_cons_self)
        (hreset.trans hempty.symm)
    exact (hfirst.receive_chunks fun c hmem => hsome c (List.mem_cons_of_mem _ hmem)).reception
  accepts data len chunks hsome command_id subfunction_id payload hcommand hfits hadmitted
      huninterrupted hstream := by
    have hall := h.receive_chunks henabled hstate hsome huninterrupted
    rw [hstream, hempty] at hall
    exact hall.accepted_frame hcommand hfits hadmitted

/-- A call at an instant, counted in ticks since the timebase was at 0. -/
def call_at (self : CommHandler) (c : Nat × Call) : CommHandler :=
  self.call (⟨BitVec.ofNat 32 c.1⟩, c.2)

/-- The instant at which the last byte was received in a run. -/
def last_byte : CommHandler → List (Nat × Call) → Option Nat
  | _, [] => none
  | comm, c :: calls =>
    (last_byte (comm.call_at c) calls).or (if comm.takes_bytes c.2 then some c.1 else none)

theorem last_byte_append (comm : CommHandler) (calls : List (Nat × Call)) (c : Nat × Call) :
    last_byte comm (calls ++ [c]) =
      if (run call_at comm calls).takes_bytes c.2 then some c.1 else last_byte comm calls := by
  induction calls generalizing comm with
  | nil =>
    rw [List.nil_append, last_byte]
    cases comm.takes_bytes c.2 <;> rfl
  | cons first calls ih =>
    rw [List.cons_append, last_byte, ih, run_cons, last_byte]
    split <;> rfl

theorem last_byte_mem {calls : List (Nat × Call)} {last : Nat}
    (hlast : last_byte comm calls = some last) : ∃ c ∈ calls, c.1 = last := by
  induction calls generalizing comm with
  | nil => cases hlast
  | cons first calls ih =>
    rw [last_byte, Option.or_eq_some_iff] at hlast
    rcases hlast with hlater | ⟨-, hfirst⟩
    · obtain ⟨c, hmem, heq⟩ := ih hlater
      exact ⟨c, List.mem_cons_of_mem _ hmem, heq⟩
    · split at hfirst
      · exact ⟨first, List.mem_cons_self, Option.some.inj hfirst⟩
      · cases hfirst

/-- Nothing is under way, or the last byte came in at the time that is remembered. -/
structure Timed (last : Option Nat) (comm : CommHandler) (parser : Parser) : Prop where
  represents : Represents comm parser
  since : parser = .empty ∨ parser = { Parser.empty with rx_error := .Disabled } ∨
    comm.m_enabled = true ∧ ∃ instant, last = some instant ∧
      comm.m_last_rx_timestamp = BitVec.ofNat 32 instant

theorem Timed.call_at {last : Option Nat} {parser : Parser} (h : Timed last comm parser)
    (c : Nat × Call) :
    ∃ parser', Timed (if comm.takes_bytes c.2 then some c.1 else last) (comm.call_at c)
      parser' := by
  obtain ⟨instant, c⟩ := c
  cases htakes : comm.takes_bytes c with
  | true =>
    obtain ⟨data, len, rfl, henabled, hstate, hlen⟩ := takes_bytes_iff.mp htakes
    have hframe := receive_data_frame comm ⟨BitVec.ofNat 32 instant⟩ data len
    have hnow := receive_data_timestamp henabled hstate ⟨BitVec.ofNat 32 instant⟩ data hlen
    exact ⟨_, h.represents.receive_data henabled hstate _ data hlen,
      .inr (.inr ⟨hframe.enabled.trans henabled, instant, rfl, hnow⟩)⟩
  | false =>
    cases hears htakes ⟨BitVec.ofNat 32 instant⟩ with
    | drops hframe => exact ⟨.empty, hframe, .inl rfl⟩
    | keeps hframe htime henabled =>
      refine ⟨parser, hframe parser h.represents, ?_⟩
      rcases h.since with hempty | hrefused | ⟨hon, when, hlast, hwhen⟩
      · exact .inl hempty
      · exact .inr (.inl hrefused)
      · refine .inr (.inr ⟨?_, when, hlast, htime.trans hwhen⟩)
        by_contra hoff
        exact absurd hon (by rw [henabled (Bool.eq_false_iff.mpr hoff)]; decide)
    | refuses hframe hdisabled =>
      refine ⟨_, hframe parser h.represents, .inr (.inl ?_)⟩
      rcases h.since with rfl | rfl | ⟨hon, -⟩
      · rfl
      · rfl
      · exact absurd hon (by rw [hdisabled]; decide)

omit [Platform] in
/-- The time that the timebase counts wraps. -/
theorem elapsed_since_at {before now : Nat} (hle : before ≤ now) :
    ((⟨BitVec.ofNat 32 now⟩ : Timebase).elapsed_since (BitVec.ofNat 32 before)).toNat =
      (now - before) % 2 ^ 32 := by
  rw [Timebase.elapsed_since, BitVec.toNat_sub, BitVec.toNat_ofNat, BitVec.toNat_ofNat]
  omega

theorem timed_run {start : CommHandler} (hstart : Initialized start) (calls : List (Nat × Call)) :
    ∃ parser, Timed (last_byte start calls) (run CommHandler.call_at start calls) parser := by
  induction calls using List.reverseRecOn with
  | nil => exact ⟨.empty, hstart.represents, .inl rfl⟩
  | append_singleton calls c ih =>
    obtain ⟨parser, hparser⟩ := ih
    rw [last_byte_append, run_append]
    exact hparser.call_at c

/-- Once the time of the timeout went by without a byte, reception starts afresh. -/
def RecoversAt (start : CommHandler) (calls : List (Nat × Call)) (now : Nat) : Prop :=
  Initialized start → (∀ c ∈ calls, c.1 ≤ now) →
    (run call_at start calls).m_enabled = true →
    (run call_at start calls).m_state ≠ .Transmitting →
    (run call_at start calls).m_request_received = false →
    (∀ last, last_byte start calls = some last →
      (Platform.comm_rx_timeout_us * 10 : uint32_t).toNat ≤ now - last) →
    StartsAfresh (run call_at start calls) ⟨BitVec.ofNat 32 now⟩

/-- After a silence, counted as the timebase counts it, reception starts afresh. Where data
was refused while the handler was disabled, it must also be as long since the last reset. -/
theorem reception_after_silence {start : CommHandler} (hstart : Initialized start)
    {calls : List (Nat × Call)} {now : Nat} (hpast : ∀ c ∈ calls, c.1 ≤ now)
    (henabled : (run CommHandler.call_at start calls).m_enabled = true)
    (hstate : (run CommHandler.call_at start calls).m_state ≠ .Transmitting)
    (hsilence : ∀ last, last_byte start calls = some last →
      (Platform.comm_rx_timeout_us * 10 : uint32_t).toNat ≤ (now - last) % 2 ^ 32)
    (hrefused : (run CommHandler.call_at start calls).m_rx_state = .WaitForCommand →
      (run CommHandler.call_at start calls).m_rx_error = .Disabled →
      (⟨BitVec.ofNat 32 now⟩ : Timebase).has_expired
        (run CommHandler.call_at start calls).m_last_rx_timestamp
        (Platform.comm_rx_timeout_us * 10) = true) :
    StartsAfresh (run CommHandler.call_at start calls) ⟨BitVec.ofNat 32 now⟩ := by
  obtain ⟨parser, hparser, hsince⟩ := timed_run hstart calls
  refine starts_afresh hparser henabled hstate ?_
  rcases hsince with rfl | rfl | ⟨-, last, hlast, hwhen⟩
  · unfold resumed
    exact ite_self _
  · exact if_pos (hrefused hparser.rx_state hparser.rx_error)
  · obtain ⟨c, hmem, rfl⟩ := last_byte_mem hlast
    refine if_pos ?_
    rw [Timebase.has_expired, hwhen, decide_eq_true_eq, ge_iff_le, BitVec.le_def,
      elapsed_since_at (hpast c hmem)]
    exact hsilence c.1 hlast

end

section

attribute [local instance] host.platform

/-- A byte that starts no frame came in at once. -/
def garbage : List (Nat × Call) := [(0, .receive_data (host.buffer_of [0xFF]) 1)]

/-- What is refused while the handler is disabled is not forgotten when it is enabled. -/
def refused_while_disabled : List (Nat × Call) :=
  garbage ++ [(500000, .disable), (500000, .receive_data (host.buffer_of [0xFF]) 1),
    (500000, .enable)]

theorem reception_of_garbage :
    StartsAfresh (run CommHandler.call_at fresh garbage) ⟨BitVec.ofNat 32 500000⟩ := by
  refine reception_after_silence fresh_initialized ?_ (by decide +kernel) (by decide +kernel) ?_
    (by decide +kernel)
  · decide
  · intro last hlast
    obtain rfl : 0 = last := Option.some.inj hlast
    decide +kernel

/-- A silence of a whole turn of the timebase goes by unnoticed, and what was refused before
the silence is still reported after it. -/
theorem silence_unnoticed :
    ¬ RecoversAt fresh garbage (2 ^ 32) ∧ ¬ RecoversAt fresh refused_while_disabled 500000 := by
  constructor
  · intro hrecovers
    have hafresh := hrecovers fresh_initialized (by decide) (by decide +kernel)
      (by decide +kernel) (by decide +kernel) (by decide +kernel)
    have hsame := hafresh.as_reset (host.buffer_of [1]) 1 [] (by decide) fresh ⟨0⟩ (by decide)
      (by decide) (congrArg₂ Gate.mk (by decide +kernel) (by decide +kernel))
    exact absurd (congrArg (·.1.rx_state) hsame) (by decide +kernel)
  · intro hrecovers
    have hafresh := hrecovers fresh_initialized (by decide) (by decide +kernel)
      (by decide +kernel) (by decide +kernel) (by decide +kernel)
    have hsame := hafresh.as_reset (host.buffer_of [1]) 1 [] (by decide) fresh ⟨0⟩ (by decide)
      (by decide) (congrArg₂ Gate.mk (by decide +kernel) (by decide +kernel))
    exact absurd (congrArg (·.1.rx_error) hsame) (by decide +kernel)

end

end scrutiny.protocol.CommHandler
