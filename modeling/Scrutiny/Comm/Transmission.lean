import Scrutiny.Protocol.CommHandler
import Scrutiny.CommonCodecs

open foundation

namespace scrutiny.protocol.CommHandler

/-- Transmission of some bytes, short of the end of the response. -/
def Sends (before after : CommHandler) : Prop :=
  ∃ sent, after = { before with m_nbytes_sent := sent }

theorem Sends.refl (comm : CommHandler) : Sends comm comm := ⟨comm.m_nbytes_sent, rfl⟩

theorem Sends.trans {first second third : CommHandler} (h : Sends first second)
    (h' : Sends second third) : Sends first third := by
  obtain ⟨sent, rfl⟩ := h
  obtain ⟨sent', rfl⟩ := h'
  exact ⟨sent', rfl⟩

theorem pop_header_sends (len fuel : Nat) (self : CommHandler) (buffer : List uint8_t) :
    Sends self (pop_header len fuel self buffer).1 := by
  induction fuel generalizing self buffer with
  | zero => exact Sends.refl self
  | succ fuel ih =>
    rw [pop_header]
    split
    · exact Sends.trans ⟨_, rfl⟩ (ih _ _)
    · exact Sends.refl self

theorem pop_payload_sends (self : CommHandler) (len : Nat) (buffer : List uint8_t) :
    Sends self (self.pop_payload len buffer).1 := by
  unfold pop_payload
  simp only
  split
  · exact ⟨_, rfl⟩
  · exact Sends.refl self

theorem pop_crc_sends (len : Nat) (crc_position : uint16_t) (fuel : Nat) (self : CommHandler)
    (buffer : List uint8_t) : Sends self (pop_crc len crc_position fuel self buffer).1 := by
  induction fuel generalizing self buffer with
  | zero => exact Sends.refl self
  | succ fuel ih =>
    rw [pop_crc]
    split
    · simp only
      split
      · exact Sends.trans ⟨_, rfl⟩ (ih _ _)
      · exact Sends.refl self
    · exact Sends.refl self

/-- The bytes that `pop_data` gives when its user buffer has room for `len` of them. -/
def pop_bytes (self : CommHandler) (len : Nat) : CommHandler × List uint8_t :=
  let (self, buffer) := pop_header len 5 self []
  if self.m_nbytes_sent ≥ 5 ∧ buffer.length < len then
    let (self, buffer) := self.pop_payload len buffer
    let crc_position := self.m_active_response.data_length + 5
    pop_crc len crc_position 4 self buffer
  else (self, buffer)

theorem pop_bytes_sends (self : CommHandler) (len : Nat) : Sends self (self.pop_bytes len).1 := by
  have hheader := pop_header_sends len 5 self []
  unfold pop_bytes
  simp only
  split
  · exact hheader.trans ((pop_payload_sends _ _ _).trans (pop_crc_sends _ _ _ _ _))
  · exact hheader

/-- The number of bytes that `pop_data` can give. -/
def pop_room (self : CommHandler) (len : uint16_t) : Nat :=
  (if len > self.m_nbytes_to_send - self.m_nbytes_sent then
    self.m_nbytes_to_send - self.m_nbytes_sent else len).toNat

theorem pop_data_of_transmitting {self : CommHandler} (hstate : self.m_state = .Transmitting)
    (timebase : Timebase) (len : uint16_t) :
    self.pop_data timebase len =
      let (after, buffer) := self.pop_bytes (self.pop_room len)
      if after.m_nbytes_sent ≥ after.m_nbytes_to_send then
        (after.reset_tx.wait_next_request timebase, buffer)
      else (after, buffer) := by
  rw [pop_data, if_neg (not_not.mpr hstate)]
  rfl

/-- The comm handler after the last byte of a response. -/
def Finishes (timebase : Timebase) (before after : CommHandler) : Prop :=
  ∃ sent, after = ({ before with m_nbytes_sent := sent }.reset_tx.wait_next_request timebase)

theorem pop_data_cases (self : CommHandler) (timebase : Timebase) (len : uint16_t) :
    (self.m_state ≠ .Transmitting ∧ (self.pop_data timebase len).1 = self) ∨
      (self.m_state = .Transmitting ∧ Sends self (self.pop_data timebase len).1) ∨
      (self.m_state = .Transmitting ∧ Finishes timebase self (self.pop_data timebase len).1) := by
  by_cases hstate : self.m_state = .Transmitting
  · right
    rw [pop_data_of_transmitting hstate]
    obtain ⟨sent, hsent⟩ := pop_bytes_sends self (self.pop_room len)
    simp only [hsent]
    split
    · exact .inr ⟨hstate, sent, rfl⟩
    · exact .inl ⟨hstate, sent, rfl⟩
  · left
    rw [pop_data, if_pos hstate]
    exact ⟨hstate, rfl⟩

/-- A response as it is sent on the wire. -/
def response_frame (response : Response) : List uint8_t :=
  let header := [response.command_id ||| 0x80, response.subfunction_id, response.response_code,
    (response.data_length >>> 8).setWidth 8, response.data_length.setWidth 8]
  header ++ response.payload ++
    codecs.encode_32_bits_big_endian_8bits (tools.crc32 response.payload (tools.crc32 header 0))

def header (response : Response) : List uint8_t :=
  [response.command_id, response.subfunction_id, response.response_code,
    (response.data_length >>> 8).setWidth 8, response.data_length.setWidth 8]

/-- The bytes that the active response stands for. -/
def active_frame (response : Response) : List uint8_t :=
  header response ++ response.payload ++ codecs.encode_32_bits_big_endian_8bits response.crc

theorem length_active_frame (response : Response) :
    (active_frame response).length = 9 + response.data_length.toNat := by
  simp [active_frame, header, Response.payload, codecs.encode_32_bits_big_endian_8bits]
  omega

/-- The comm handler when a number of bytes of the response are sent. -/
def at_byte (self : CommHandler) (k : Nat) : CommHandler :=
  { self with m_nbytes_sent := BitVec.ofNat 16 k }

theorem at_byte_next (self : CommHandler) (k m : Nat) :
    { self.at_byte k with m_nbytes_sent := (self.at_byte k).m_nbytes_sent + BitVec.ofNat 16 m } =
      self.at_byte (k + m) := by
  simp only [at_byte, BitVec.ofNat_add]

theorem header_byte_eq (self : CommHandler) {k : Nat} (hk : k < 5) :
    (header self.m_active_response).drop k =
      (self.at_byte k).header_byte :: (header self.m_active_response).drop (k + 1) := by
  have hcases : k = 0 ∨ k = 1 ∨ k = 2 ∨ k = 3 ∨ k = 4 := by omega
  rcases hcases with rfl | rfl | rfl | rfl | rfl <;> rfl

theorem pop_header_eq (self : CommHandler) (len fuel : Nat) {k : Nat} (buffer : List uint8_t)
    (hfuel : 5 ≤ fuel + k) (hk : k < 2 ^ 16) :
    pop_header len fuel (self.at_byte k) buffer =
      (self.at_byte (k + min (5 - k) (len - buffer.length)),
        buffer ++ ((header self.m_active_response).drop k).take (len - buffer.length)) := by
  have hdone {k : Nat} {buffer : List uint8_t} (hnone : 5 ≤ k ∨ len ≤ buffer.length) :
      (self.at_byte k, buffer) = (self.at_byte (k + min (5 - k) (len - buffer.length)),
        buffer ++ ((header self.m_active_response).drop k).take (len - buffer.length)) := by
    have hzero : min (5 - k) (len - buffer.length) = 0 := by omega
    rw [hzero]
    rcases hnone with hsent | hfull
    · rw [List.drop_eq_nil_of_le (by simpa [header] using hsent), List.take_nil, List.append_nil]
      rfl
    · rw [Nat.sub_eq_zero_of_le hfull, List.take_zero, List.append_nil]
      rfl
  induction fuel generalizing k buffer with
  | zero => exact hdone (.inl (by omega))
  | succ fuel ih =>
    have hsent : (self.at_byte k).m_nbytes_sent < 5 ↔ k < 5 := by
      have hfive : (5 : uint16_t).toNat = 5 := rfl
      simp only [at_byte, BitVec.lt_def, BitVec.toNat_ofNat, hfive, Nat.mod_eq_of_lt hk]
    rw [pop_header]
    simp only [hsent]
    split
    · rename_i hroom
      have hnext : { self.at_byte k with m_nbytes_sent := (self.at_byte k).m_nbytes_sent + 1 } =
          self.at_byte (k + 1) := self.at_byte_next k 1
      have hlength : len - buffer.length = len - (buffer ++ [(self.at_byte k).header_byte]).length
          + 1 := by
        simp only [List.length_append, List.length_singleton]
        omega
      have hcount : k + 1 + min (5 - (k + 1)) (len - (buffer ++ [(self.at_byte k).header_byte]).length)
          = k + min (5 - k) (len - buffer.length) := by
        omega
      rw [hnext, ih _ (by omega) (by omega), hcount, header_byte_eq self hroom.1, hlength,
        List.take_succ_cons, List.append_assoc]
      rfl
    · rename_i hnone
      exact hdone (by omega)

theorem min_eq_ofNat (a b : uint16_t) :
    (if a < b then a else b) = BitVec.ofNat 16 (min b.toNat a.toNat) := by
  split
  · rename_i hlt
    rw [Nat.min_eq_right (Nat.le_of_lt (BitVec.lt_def.mp hlt)), BitVec.ofNat_toNat, BitVec.setWidth_eq]
  · rename_i hge
    rw [Nat.min_eq_left (Nat.le_of_not_lt (BitVec.lt_def.not.mp hge)), BitVec.ofNat_toNat,
      BitVec.setWidth_eq]

theorem pop_payload_eq (self : CommHandler) {len k : Nat} {buffer : List uint8_t}
    (hk : 5 ≤ k) (hsize : k < 2 ^ 16) (hlen : len < 2 ^ 16) :
    (self.at_byte k).pop_payload len buffer =
      (self.at_byte (k + min (self.m_active_response.data_length.toNat - (k - 5))
          (len - buffer.length)),
        buffer ++ (self.m_active_response.payload.drop (k - 5)).take (len - buffer.length)) := by
  have hsent : ((self.at_byte k).m_nbytes_sent - 5).toNat = k - 5 := by
    simp only [at_byte]
    bv_omega
  have hdata : (self.at_byte k).m_active_response = self.m_active_response := rfl
  rw [Response.payload, Buffer.drop_slice, Buffer.take_slice, Nat.zero_add]
  unfold pop_payload
  simp only [hdata]
  split
  · rename_i hleft
    rw [BitVec.lt_def, hsent] at hleft
    have hremaining : (self.m_active_response.data_length -
        ((self.at_byte k).m_nbytes_sent - 5)).toNat =
          self.m_active_response.data_length.toNat - (k - 5) := by
      rw [BitVec.toNat_sub_of_le (by rw [BitVec.le_def, hsent]; exact Nat.le_of_lt hleft), hsent]
    have hfirst : (self.m_active_response.data_length - (self.m_active_response.data_length -
        ((self.at_byte k).m_nbytes_sent - 5))).toNat = k - 5 := by
      rw [BitVec.toNat_sub_of_le (by rw [BitVec.le_def, hremaining]; omega), hremaining]
      omega
    have hroom : (BitVec.ofNat 16 (len - buffer.length)).toNat = len - buffer.length := by
      rw [BitVec.toNat_ofNat]
      exact Nat.mod_eq_of_lt (by omega)
    have hcopied : (BitVec.ofNat 16 (min (self.m_active_response.data_length.toNat - (k - 5))
        (len - buffer.length))).toNat = min (len - buffer.length)
          (self.m_active_response.data_length.toNat - (k - 5)) := by
      rw [BitVec.toNat_ofNat, Nat.mod_eq_of_lt (by omega), Nat.min_comm]
    rw [min_eq_ofNat, hremaining, hroom, hfirst, hcopied]
    exact Prod.ext (self.at_byte_next k _) rfl
  · rename_i hnone
    rw [BitVec.lt_def, hsent] at hnone
    have hzero : self.m_active_response.data_length.toNat - (k - 5) = 0 := by omega
    rw [hzero, Nat.zero_min, Nat.min_zero, Buffer.slice_zero, List.append_nil]
    rfl

theorem pop_crc_full {self : CommHandler} {len : Nat} {buffer : List uint8_t}
    (hfull : len ≤ buffer.length) (crc_position : uint16_t) (fuel : Nat) :
    pop_crc len crc_position fuel self buffer = (self, buffer) := by
  cases fuel with
  | zero => rfl
  | succ fuel => rw [pop_crc, if_neg (Nat.not_lt.mpr hfull)]

/-- The byte of the CRC that comes after `j` others. -/
theorem pop_crc_next (self : CommHandler) {crc_position : uint16_t}
    (hposition : crc_position.toNat + 4 < 2 ^ 16) {len j : Nat} {buffer : List uint8_t}
    (hroom : buffer.length < len) (hj : j ≤ 4) (fuel : Nat) :
    pop_crc len crc_position (fuel + 1) (self.at_byte (crc_position.toNat + j)) buffer =
      match (codecs.encode_32_bits_big_endian_8bits self.m_active_response.crc)[j]? with
      | some byte => pop_crc len crc_position fuel
          (self.at_byte (crc_position.toNat + (j + 1))) (buffer ++ [byte])
      | none => (self.at_byte (crc_position.toNat + j), buffer) := by
  have hsent : (self.at_byte (crc_position.toNat + j)).m_nbytes_sent.toNat =
      crc_position.toNat + j := by
    simp only [at_byte, BitVec.toNat_ofNat]
    omega
  have hfirst : (self.at_byte (crc_position.toNat + j)).m_nbytes_sent = crc_position ↔ j = 0 := by
    rw [← BitVec.toNat_inj, hsent]
    omega
  have hnext : { self.at_byte (crc_position.toNat + j) with
      m_nbytes_sent := (self.at_byte (crc_position.toNat + j)).m_nbytes_sent + 1 } =
      self.at_byte (crc_position.toNat + (j + 1)) := self.at_byte_next _ 1
  rw [pop_crc, if_pos hroom]
  simp only [hfirst, hsent, hnext, Nat.add_left_cancel_iff]
  have hcases : j = 0 ∨ j = 1 ∨ j = 2 ∨ j = 3 ∨ j = 4 := by omega
  rcases hcases with rfl | rfl | rfl | rfl | rfl <;> rfl

/-- The bytes of the CRC that are left, `j` of them sent already. -/
theorem pop_crc_eq (self : CommHandler) {crc_position : uint16_t}
    (hposition : crc_position.toNat + 4 < 2 ^ 16) (len fuel : Nat) {j : Nat}
    (buffer : List uint8_t) (hfuel : 4 ≤ fuel + j) (hj : j ≤ 4) :
    pop_crc len crc_position fuel (self.at_byte (crc_position.toNat + j)) buffer =
      (self.at_byte (crc_position.toNat + j + min (4 - j) (len - buffer.length)),
        buffer ++ ((codecs.encode_32_bits_big_endian_8bits self.m_active_response.crc).drop j).take
          (len - buffer.length)) := by
  have hdone {j : Nat} {buffer : List uint8_t} (hnone : 4 ≤ j ∨ len ≤ buffer.length) :
      (self.at_byte (crc_position.toNat + j), buffer) =
        (self.at_byte (crc_position.toNat + j + min (4 - j) (len - buffer.length)), buffer ++
          ((codecs.encode_32_bits_big_endian_8bits self.m_active_response.crc).drop j).take
            (len - buffer.length)) := by
    have hzero : min (4 - j) (len - buffer.length) = 0 := by omega
    rw [hzero]
    rcases hnone with hsent | hfull
    · rw [List.drop_eq_nil_of_le hsent, List.take_nil, List.append_nil]
      rfl
    · rw [Nat.sub_eq_zero_of_le hfull, List.take_zero, List.append_nil]
      rfl
  induction fuel generalizing j buffer with
  | zero => exact hdone (.inl (by omega))
  | succ fuel ih =>
    by_cases hroom : buffer.length < len
    · rw [pop_crc_next self hposition hroom hj]
      by_cases hend : j = 4
      · subst hend
        exact hdone (.inl (Nat.le_refl 4))
      · have hlt : j < (codecs.encode_32_bits_big_endian_8bits self.m_active_response.crc).length :=
          Nat.lt_of_le_of_ne hj hend
        have hlength (byte : uint8_t) :
            len - buffer.length = len - (buffer ++ [byte]).length + 1 := by
          simp only [List.length_append, List.length_singleton]
          omega
        have hcount (byte : uint8_t) : crc_position.toNat + (j + 1) +
            min (4 - (j + 1)) (len - (buffer ++ [byte]).length) =
              crc_position.toNat + j + min (4 - j) (len - buffer.length) := by
          have := hlength byte
          omega
        rw [List.getElem?_eq_getElem hlt]
        simp only
        rw [ih _ (by omega) (by omega), hcount, List.drop_eq_getElem_cons hlt, hlength,
          List.take_succ_cons, List.append_assoc]
        rfl
    · rw [pop_crc_full (Nat.le_of_not_lt hroom)]
      exact hdone (.inr (Nat.le_of_not_lt hroom))

theorem take_drop_active_frame (response : Response) (k len : Nat) :
    ((active_frame response).drop k).take len =
      ((header response).drop k).take len ++
        ((response.payload.drop (k - 5)).take (len - (5 - k)) ++
          ((codecs.encode_32_bits_big_endian_8bits response.crc).drop
            (k - 5 - response.data_length.toNat)).take
              (len - (5 - k) - (response.data_length.toNat - (k - 5)))) := by
  have hheader : (header response).length = 5 := rfl
  have hpayload : response.payload.length = response.data_length.toNat := Buffer.length_slice _ _ _
  rw [active_frame, List.append_assoc, List.drop_append, List.take_append, List.drop_append,
    List.take_append, List.length_drop, List.length_drop, hheader, hpayload]

/-- A call gives the bytes that come next, as many as it has room for. -/
theorem pop_bytes_eq (self : CommHandler) {k len : Nat}
    (hsize : self.m_active_response.data_length ≤ MAXIMUM_TX_BUFFER_SIZE)
    (hroom : k + len ≤ 9 + self.m_active_response.data_length.toNat) :
    (self.at_byte k).pop_bytes len = (self.at_byte (k + len),
      ((active_frame self.m_active_response).drop k).take len) := by
  have hlimit : self.m_active_response.data_length.toNat ≤ 65519 := hsize
  have hheader : (((header self.m_active_response).drop k).take len).length = min len (5 - k) := by
    simp [header]
  have hsent : (self.at_byte (k + min (5 - k) len)).m_nbytes_sent ≥ 5 ↔ 5 ≤ k + min (5 - k) len := by
    have hfive : (5 : uint16_t).toNat = 5 := rfl
    simp only [at_byte, ge_iff_le, BitVec.le_def, BitVec.toNat_ofNat, hfive]
    omega
  rw [take_drop_active_frame]
  unfold pop_bytes
  rw [pop_header_eq self len 5 [] (by omega) (by omega), List.length_nil, Nat.sub_zero,
    List.nil_append]
  simp only [hsent, hheader]
  split
  · rename_i hmore
    have hfirst : k + min (5 - k) len - 5 = k - 5 := by omega
    have hleft : len - min len (5 - k) = len - (5 - k) := by omega
    rw [pop_payload_eq self hmore.1 (by omega) (by omega), hheader, hfirst, hleft]
    simp only
    generalize hbuffer : ((header self.m_active_response).drop k).take len ++
      (self.m_active_response.payload.drop (k - 5)).take (len - (5 - k)) = buffer
    have hlength : buffer.length = min len (5 - k) +
        min (len - (5 - k)) (self.m_active_response.data_length.toNat - (k - 5)) := by
      rw [← hbuffer, List.length_append, hheader]
      simp [Response.payload]
    rw [← List.append_assoc, hbuffer]
    by_cases hfull : len ≤ buffer.length
    · have hnone : len - (5 - k) - (self.m_active_response.data_length.toNat - (k - 5)) = 0 := by
        omega
      have hend : k + min (5 - k) len + min (self.m_active_response.data_length.toNat - (k - 5))
          (len - (5 - k)) = k + len := by
        omega
      rw [pop_crc_full hfull, hnone, hend, List.take_zero, List.append_nil]
    · have hposition : (self.m_active_response.data_length + 5).toNat =
          self.m_active_response.data_length.toNat + 5 := by
        bv_omega
      obtain ⟨j, hj⟩ : ∃ j, k + min (5 - k) len +
          min (self.m_active_response.data_length.toNat - (k - 5)) (len - (5 - k)) =
            (self.m_active_response.data_length + 5).toNat + j :=
        Nat.exists_eq_add_of_le (by omega)
      have hrest : len - (5 - k) - (self.m_active_response.data_length.toNat - (k - 5)) =
          len - buffer.length := by
        omega
      have hindex : k - 5 - self.m_active_response.data_length.toNat = j := by omega
      have hend : (self.m_active_response.data_length + 5).toNat + j +
          min (4 - j) (len - buffer.length) = k + len := by
        omega
      have hdata : (self.at_byte ((self.m_active_response.data_length + 5).toNat + j)
        ).m_active_response = self.m_active_response := rfl
      rw [hj, hdata, pop_crc_eq self (by omega) len 4 buffer (by omega) (by omega), hend, hrest,
        hindex]
  · rename_i hless
    have hshort : len ≤ 5 - k := by omega
    have hend : k + min (5 - k) len = k + len := by omega
    rw [hend, Nat.sub_eq_zero_of_le hshort, Nat.zero_sub, List.take_zero, List.take_zero,
      List.append_nil, List.append_nil]

/-- A response is being transmitted, and a number of its bytes are sent. -/
structure Sending (comm : CommHandler) (k : Nat) : Prop where
  state : comm.m_state = .Transmitting
  sent : comm.m_nbytes_sent.toNat = k
  to_send : comm.m_nbytes_to_send.toNat = (active_frame comm.m_active_response).length
  size : comm.m_active_response.data_length ≤ MAXIMUM_TX_BUFFER_SIZE
  unfinished : k < (active_frame comm.m_active_response).length

namespace Sending

variable {comm : CommHandler} {k : Nat}

theorem at_byte_self (h : Sending comm k) : comm.at_byte k = comm := by
  rw [at_byte, ← h.sent, BitVec.ofNat_toNat, BitVec.setWidth_eq]

theorem data_to_send (h : Sending comm k) :
    comm.data_to_send.toNat = (active_frame comm.m_active_response).length - k := by
  have hunfinished := h.unfinished
  rw [CommHandler.data_to_send, if_neg (not_not.mpr h.state), BitVec.toNat_sub_of_le, h.to_send,
    h.sent]
  rw [BitVec.le_def, h.to_send, h.sent]
  omega

theorem pop_room (h : Sending comm k) (len : uint16_t) :
    comm.pop_room len = min len.toNat comm.data_to_send.toNat := by
  rw [CommHandler.pop_room, CommHandler.data_to_send, if_neg (not_not.mpr h.state)]
  split
  · rename_i hmore
    exact (Nat.min_eq_right (Nat.le_of_lt (BitVec.lt_def.mp hmore))).symm
  · rename_i hless
    exact (Nat.min_eq_left (Nat.le_of_not_lt (BitVec.lt_def.not.mp hless))).symm

/-- A call of `pop_data` gives the next bytes of the frame; the last ones end the
transmission. -/
theorem pop_data (h : Sending comm k) (timebase : Timebase) (len : uint16_t) :
    comm.pop_data timebase len =
      (if k + len.toNat < (active_frame comm.m_active_response).length then
          comm.at_byte (k + len.toNat)
        else (comm.at_byte (active_frame comm.m_active_response).length).reset_tx.wait_next_request
          timebase,
        ((active_frame comm.m_active_response).drop k).take len.toNat) := by
  have hlimit : comm.m_active_response.data_length.toNat ≤ 65519 := h.size
  have hlength := length_active_frame comm.m_active_response
  have hunfinished := h.unfinished
  have hbytes := comm.pop_bytes_eq h.size (show k + comm.pop_room len ≤
      9 + comm.m_active_response.data_length.toNat by
    rw [h.pop_room, h.data_to_send]
    omega)
  rw [h.at_byte_self] at hbytes
  have hend : (comm.at_byte (k + comm.pop_room len)).m_nbytes_sent ≥
      (comm.at_byte (k + comm.pop_room len)).m_nbytes_to_send ↔
        (active_frame comm.m_active_response).length ≤ k + comm.pop_room len := by
    have hto_send : (comm.at_byte (k + comm.pop_room len)).m_nbytes_to_send.toNat =
        (active_frame comm.m_active_response).length := h.to_send
    have hroom : k + comm.pop_room len < 2 ^ 16 := by
      rw [h.pop_room, h.data_to_send]
      omega
    rw [ge_iff_le, BitVec.le_def, hto_send, at_byte, BitVec.toNat_ofNat, Nat.mod_eq_of_lt hroom]
  have htaken : ((active_frame comm.m_active_response).drop k).take (comm.pop_room len) =
      ((active_frame comm.m_active_response).drop k).take len.toNat := by
    rw [h.pop_room, h.data_to_send, ← List.length_drop, ← List.take_eq_take_min]
  rw [pop_data_of_transmitting h.state, hbytes]
  simp only [hend, htaken]
  have hcases := h.pop_room len
  rw [h.data_to_send] at hcases
  by_cases hshort : k + len.toNat < (active_frame comm.m_active_response).length
  · have hall : comm.pop_room len = len.toNat := by omega
    rw [hall, if_neg (Nat.not_le.mpr hshort), if_pos hshort]
  · have hrest : k + comm.pop_room len = (active_frame comm.m_active_response).length := by omega
    rw [hrest, if_pos (Nat.le_refl _), if_neg hshort]

end Sending

/-- A response is refused while the comm handler is not idle. -/
theorem send_response_busy {self : CommHandler} (hbusy : self.m_state ≠ .Idle)
    (response : Response) : (self.send_response response).1.m_state = self.m_state := by
  simp only [send_response]
  split
  · rfl
  · rfl

/-- The comm handler once it has accepted a response. -/
theorem send_response_accepted {self : CommHandler} {response : Response}
    (henabled : self.m_enabled = true) (hidle : self.m_state = .Idle)
    (hfits : response.data_length ≤ self.m_tx_buffer_size) :
    let active := self.add_crc { self.m_active_response with
      command_id := response.command_id ||| 0x80
      subfunction_id := response.subfunction_id
      response_code := response.response_code
      data_length := response.data_length
      data := response.data }
    self.send_response response = ({ self with
      m_active_response := active
      m_nbytes_to_send := 1 + 1 + 1 + 2 + active.data_length + 4
      m_state := .Transmitting
      m_tx_error := .None }, true) := by
  simp only [send_response]
  rw [if_neg (by rw [henabled]; decide), if_neg (not_not.mpr hidle),
    if_neg (BitVec.not_lt.mpr hfits)]
  rfl

theorem add_crc_of_fits {self : CommHandler} {command_id subfunction_id response_code : uint8_t}
    {data_length data_max_length : uint16_t} {data : ByteBuffer} {crc : uint32_t}
    (hfits : data_length ≤ self.m_tx_buffer_size) :
    self.add_crc ⟨command_id, subfunction_id, response_code, data_length, data_max_length, data,
      crc⟩ = ⟨command_id, subfunction_id, response_code, data_length, data_max_length, data,
        tools.crc32 (data.slice 0 data_length.toNat) (tools.crc32 [command_id, subfunction_id,
          response_code, (data_length >>> 8).setWidth 8, data_length.setWidth 8] 0)⟩ := by
  rw [add_crc, if_neg (BitVec.not_lt.mpr hfits)]
  rfl

theorem enabled_of_accepted {self : CommHandler} {response : Response}
    (haccepted : (self.send_response response).2 = true) :
    self.m_enabled = true ∧ self.m_state = .Idle ∧
      response.data_length ≤ self.m_tx_buffer_size := by
  have henabled : self.m_enabled = true := by
    by_contra hdisabled
    simp [send_response, Bool.eq_false_of_not_eq_true hdisabled] at haccepted
  have hidle : self.m_state = .Idle := by
    by_contra hbusy
    simp [send_response, henabled, hbusy] at haccepted
  have hfits : response.data_length ≤ self.m_tx_buffer_size := by
    by_contra hlarge
    simp [send_response, henabled, hidle, BitVec.not_le.mp hlarge] at haccepted
  exact ⟨henabled, hidle, hfits⟩

/-- The comm handler once it has accepted a response. -/
theorem send_response_sending {self : CommHandler} {response : Response}
    (haccepted : (self.send_response response).2 = true)
    (hsize : self.m_tx_buffer_size ≤ MAXIMUM_TX_BUFFER_SIZE) (hsent : self.m_nbytes_sent = 0) :
    Sending (self.send_response response).1 0 ∧
      active_frame (self.send_response response).1.m_active_response = response_frame response := by
  obtain ⟨henabled, hidle, hfits⟩ := enabled_of_accepted haccepted
  have hsmall : response.data_length ≤ MAXIMUM_TX_BUFFER_SIZE := BitVec.le_trans hfits hsize
  have hlimit : response.data_length.toNat ≤ 65519 := hsmall
  rw [send_response_accepted henabled hidle hfits]
  simp only [add_crc_of_fits hfits]
  refine ⟨⟨rfl, by rw [hsent]; rfl, ?_, hsmall, ?_⟩, rfl⟩
  · rw [length_active_frame]
    simp only
    bv_omega
  · rw [length_active_frame]
    omega

theorem send_response_frame {self : CommHandler} {response : Response}
    (henabled : self.m_enabled = true) (hidle : self.m_state = .Idle)
    (hfits : response.data_length ≤ self.m_tx_buffer_size)
    (hsize : self.m_tx_buffer_size ≤ MAXIMUM_TX_BUFFER_SIZE) (hsent : self.m_nbytes_sent = 0)
    (timebase : Timebase) :
    ((self.send_response response).1.pop_data timebase 0xFFFF).2 = response_frame response := by
  have haccepted : (self.send_response response).2 = true := by
    rw [send_response_accepted henabled hidle hfits]
  obtain ⟨hsending, hframe⟩ := send_response_sending haccepted hsize hsent
  have hlimit : (self.send_response response).1.m_active_response.data_length.toNat ≤ 65519 :=
    hsending.size
  rw [hsending.pop_data, List.drop_zero, List.take_of_length_le, hframe]
  have hroom : (0xFFFF : uint16_t).toNat = 65535 := rfl
  rw [length_active_frame, hroom]
  omega

end scrutiny.protocol.CommHandler
