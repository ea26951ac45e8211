import Scrutiny.Comm.Calls

open foundation

namespace scrutiny.protocol.CommHandler

/-- The bytes given by a sequence of calls of `pop_data`, each with its time. -/
def pop_all (self : CommHandler) : List (Timebase × uint16_t) → CommHandler × List uint8_t
  | [] => (self, [])
  | (timebase, len) :: calls =>
    let (self, bytes) := self.pop_data timebase len
    let (self, rest) := self.pop_all calls
    (self, bytes ++ rest)

/-- The number of bytes that the calls have room for. -/
def requested : List (Timebase × uint16_t) → Nat
  | [] => 0
  | (_, len) :: calls => len.toNat + requested calls

/-- Ready for the first byte of a new frame. -/
structure Receptive (comm : CommHandler) : Prop where
  enabled : comm.m_enabled = true
  idle : comm.m_state = .Idle
  rx_state : comm.m_rx_state = .WaitForCommand
  rx_error : comm.m_rx_error = .None
  no_request : comm.m_request_received = false
  crc : comm.m_crc = 0
  request : comm.m_active_request = comm.m_active_request.reset

/-- What is left of a frame once `k` of its bytes are popped: the counters of the handler
are the true lengths. -/
inductive Popped (frame : List uint8_t) : Nat → CommHandler → Prop where
  | transmitting {k : Nat} {comm : CommHandler} (sending : Sending comm k)
      (frame_eq : active_frame comm.m_active_response = frame) (enabled : comm.m_enabled = true) :
      Popped frame k comm
  | finished {comm : CommHandler} (receptive : Receptive comm) : Popped frame frame.length comm

namespace Popped

variable {frame : List uint8_t} {k : Nat} {comm : CommHandler}

theorem data_to_send (h : Popped frame k comm) :
    k + comm.data_to_send.toNat = frame.length := by
  cases h with
  | transmitting hsending hframe henabled =>
    have hunfinished := hsending.unfinished
    rw [hsending.data_to_send, hframe]
    rw [hframe] at hunfinished
    omega
  | finished hreceptive =>
    rw [CommHandler.data_to_send, if_pos (by rw [hreceptive.idle]; exact State.noConfusion)]
    rfl

theorem receptive (h : Popped frame k comm) (hend : k = frame.length) : Receptive comm := by
  cases h with
  | transmitting hsending hframe henabled =>
    have hunfinished := hsending.unfinished
    rw [hframe] at hunfinished
    omega
  | finished hreceptive => exact hreceptive

theorem unfinished (h : Popped frame k comm) (hpart : k ≠ frame.length) :
    comm.m_state = .Transmitting ∧ comm.m_nbytes_sent.toNat = k ∧
      comm.m_nbytes_to_send.toNat = frame.length := by
  cases h with
  | transmitting hsending hframe henabled =>
    exact ⟨hsending.state, hsending.sent, hframe ▸ hsending.to_send⟩
  | finished hreceptive => exact absurd rfl hpart

theorem pop_data (h : Popped frame k comm) (timebase : Timebase) (len : uint16_t) :
    (comm.pop_data timebase len).2 = (frame.drop k).take len.toNat ∧
      Popped frame (k + (comm.pop_data timebase len).2.length) (comm.pop_data timebase len).1 := by
  cases h with
  | transmitting hsending hframe henabled =>
    have hunfinished := hsending.unfinished
    rw [hsending.pop_data, hframe]
    rw [hframe] at hunfinished
    refine ⟨rfl, ?_⟩
    simp only [List.length_take, List.length_drop]
    split
    · rename_i hmore
      have hcount : min len.toNat (frame.length - k) = len.toNat := by omega
      rw [hcount]
      refine .transmitting ⟨hsending.state, ?_, hsending.to_send, hsending.size, ?_⟩ hframe henabled
      · have hlimit : comm.m_active_response.data_length.toNat ≤ 65519 := hsending.size
        have hlength := length_active_frame comm.m_active_response
        rw [hframe] at hlength
        simp only [at_byte, BitVec.toNat_ofNat]
        omega
      · exact hframe ▸ hmore
    · rename_i hlast
      have hcount : k + min len.toNat (frame.length - k) = frame.length := by omega
      rw [hcount]
      refine .finished ⟨henabled, ?_, rfl, rfl, rfl, rfl, rfl⟩
      simp [wait_next_request, reset_rx, reset_tx, at_byte, hsending.state]
  | finished hreceptive =>
    have hidle : comm.m_state ≠ .Transmitting := by
      rw [hreceptive.idle]
      exact State.noConfusion
    rw [CommHandler.pop_data, if_pos hidle]
    exact ⟨by simp, .finished hreceptive⟩

theorem pop_all (h : Popped frame k comm) (calls : List (Timebase × uint16_t)) :
    (comm.pop_all calls).2 = (frame.drop k).take (requested calls) ∧
      Popped frame (k + (comm.pop_all calls).2.length) (comm.pop_all calls).1 := by
  induction calls generalizing k comm with
  | nil => exact ⟨(List.take_zero).symm, h⟩
  | cons c calls ih =>
    obtain ⟨timebase, len⟩ := c
    obtain ⟨hbytes, hnext⟩ := h.pop_data timebase len
    obtain ⟨hrest, hlast⟩ := ih hnext
    have hdrop : frame.drop (k + (comm.pop_data timebase len).2.length) =
        (frame.drop k).drop len.toNat := by
      rw [hbytes, List.drop_drop, List.length_take, List.length_drop]
      by_cases hshort : len.toNat ≤ frame.length - k
      · rw [Nat.min_eq_left hshort]
      · rw [List.drop_eq_nil_of_le (by omega), List.drop_eq_nil_of_le (by omega)]
    simp only [CommHandler.pop_all, requested, List.length_append, ← Nat.add_assoc]
    refine ⟨?_, hlast⟩
    rw [hrest, hdrop, hbytes, List.take_add]

end Popped

theorem length_response_frame (response : Response) :
    (response_frame response).length = 9 + response.data_length.toNat := by
  simp [response_frame, Response.payload, codecs.encode_32_bits_big_endian_8bits]
  omega

section

variable [Platform]

theorem Reachable.popped {comm : CommHandler} (h : Reachable comm) {response : Response}
    (haccepted : (comm.send_response response).2 = true) :
    Popped (response_frame response) 0 (comm.send_response response).1 := by
  obtain ⟨henabled, hidle, hfits⟩ := enabled_of_accepted haccepted
  have hready := h.sound.ready henabled
  obtain ⟨hsending, hframe⟩ := send_response_sending haccepted hready.tx_buffer_size_le
    (hready.nothing_sent (by rw [hidle]; exact State.noConfusion))
  exact .transmitting hsending hframe (hready.send_response response).enabled

/-- A transmission gives the bytes of the response, cut as the calls ask for them, and
leaves the handler ready for the next request. The counters of the handler are the true
lengths. -/
theorem transmission_exact {comm : CommHandler} (h : Reachable comm) {response : Response}
    (haccepted : (comm.send_response response).2 = true) (calls : List (Timebase × uint16_t))
    (timebase : Timebase) (len : uint16_t) :
    let sent := (comm.send_response response).1.pop_all calls
    let next := sent.1.pop_data timebase len
    (next.2.length = min len.toNat sent.1.data_to_send.toNat ∧
        next.1.data_to_send.toNat + next.2.length = sent.1.data_to_send.toNat) ∧
      (sent.2 = (response_frame response).take (requested calls) ∧
        sent.2.length + sent.1.data_to_send.toNat = 9 + response.data_length.toNat) ∧
      (sent.2 = response_frame response → sent.1.data_to_send = 0 ∧ Receptive sent.1) ∧
      (sent.2 ≠ response_frame response → sent.1.m_state = .Transmitting ∧
        sent.1.m_nbytes_sent.toNat = sent.2.length ∧
        sent.1.m_nbytes_to_send.toNat = 9 + response.data_length.toNat) := by
  intro sent next
  obtain ⟨hbytes, hsent⟩ := (h.popped haccepted).pop_all calls
  rw [List.drop_zero] at hbytes
  rw [Nat.zero_add] at hsent
  have htotal := hsent.data_to_send
  obtain ⟨hnext, hafter⟩ := hsent.pop_data timebase len
  have hleft := hafter.data_to_send
  have hframe := length_response_frame response
  refine ⟨⟨?_, ?_⟩, ⟨hbytes, htotal.trans hframe⟩, fun hall => ?_, fun hpart => ?_⟩
  · simp only [next, sent]
    rw [hnext, List.length_take, List.length_drop]
    omega
  · simp only [next, sent] at hleft ⊢
    omega
  · have hend : sent.2.length = (response_frame response).length := congrArg List.length hall
    have hzero : (0 : uint16_t).toNat = 0 := rfl
    refine ⟨BitVec.eq_of_toNat_eq ?_, hsent.receptive hend⟩
    simp only [sent] at hend ⊢
    omega
  · rw [← hframe]
    refine hsent.unfinished fun hend => hpart ?_
    have hleading : sent.2 <+: response_frame response := by
      simp only [sent]
      rw [hbytes]
      exact List.take_prefix _ _
    exact hleading.eq_of_length hend

end

section

attribute [local instance] host.platform

def answer : Response := ⟨2, 1, 0, 3, 128, host.buffer_of [7, 8, 9], 0⟩

/-- The frame is cut inside its header, inside its payload and inside its CRC. -/
theorem transmission_exact_in_chunks :
    let sent := (fresh.send_response answer).1.pop_all
      [(⟨0⟩, 3), (⟨0⟩, 4), (⟨0⟩, 0), (⟨0⟩, 3), (⟨0⟩, 0xFFFF)]
    sent.2 = response_frame answer ∧ Receptive sent.1 := by
  have haccepted : (fresh.send_response answer).2 = true := by decide
  obtain ⟨-, ⟨hbytes, -⟩, hend, -⟩ := transmission_exact fresh_reachable haccepted
    [(⟨0⟩, 3), (⟨0⟩, 4), (⟨0⟩, 0), (⟨0⟩, 3), (⟨0⟩, 0xFFFF)] ⟨0⟩ 0
  have hall : (response_frame answer).length ≤
      requested [(⟨0⟩, 3), (⟨0⟩, 4), (⟨0⟩, 0), (⟨0⟩, 3), (⟨0⟩, 0xFFFF)] := by decide
  rw [List.take_of_length_le hall] at hbytes
  exact ⟨hbytes, (hend hbytes).2⟩

end

end scrutiny.protocol.CommHandler
