import Scrutiny.Comm.Frames
import Scrutiny.Host

open foundation

namespace scrutiny.protocol

/-- Lists that differ within four elements in a row have the same parts around them. -/
theorem split_at_window {bytes altered : List uint8_t} (hlength : altered.length = bytes.length)
    {start : Nat} (hwithin : ∀ i, altered[i]? ≠ bytes[i]? → start ≤ i ∧ i < start + 4) :
    ∃ before window other after, bytes = before ++ window ++ after ∧
      altered = before ++ other ++ after ∧ window.length = other.length ∧ window.length ≤ 4 := by
  have hbefore : altered.take start = bytes.take start := by
    apply List.ext_getElem?
    intro i
    by_cases hi : i < start
    · rw [List.getElem?_take_of_lt hi, List.getElem?_take_of_lt hi]
      by_contra hdiffer
      exact Nat.not_lt.mpr (hwithin i hdiffer).1 hi
    · rw [List.getElem?_take_eq_none (Nat.not_lt.mp hi),
        List.getElem?_take_eq_none (Nat.not_lt.mp hi)]
  have hafter : altered.drop (start + 4) = bytes.drop (start + 4) := by
    apply List.ext_getElem?
    intro i
    rw [List.getElem?_drop, List.getElem?_drop]
    by_contra hdiffer
    have hlast := (hwithin _ hdiffer).2
    omega
  have hsplit (all : List uint8_t) :
      all = all.take start ++ (all.drop start).take 4 ++ all.drop (start + 4) := by
    rw [List.append_assoc, ← List.drop_drop, List.take_append_drop, List.take_append_drop]
  refine ⟨bytes.take start, (bytes.drop start).take 4, (altered.drop start).take 4,
    bytes.drop (start + 4), hsplit bytes, ?_, ?_, List.length_take_le _ _⟩
  · rw [← hbefore, ← hafter]
    exact hsplit altered
  · rw [List.length_take, List.length_take, List.length_drop, List.length_drop, hlength]

/-- Some of the command, the subfunction and the payload of a frame is changed, all of it
within four bytes in a row. -/
structure ShortCorruption (frame altered : List uint8_t) : Prop where
  length : altered.length = frame.length
  changed : altered ≠ frame
  length_kept : ∀ i, altered[i]? ≠ frame[i]? → i ≠ 2 ∧ i ≠ 3
  crc_kept : ∀ i, altered[i]? ≠ frame[i]? → i + 4 < frame.length
  within : ∃ start, ∀ i, altered[i]? ≠ frame[i]? → start ≤ i ∧ i < start + 4

namespace ShortCorruption

variable {command_id subfunction_id : uint8_t} {payload altered : List uint8_t}

/-- What is left of the frame: its length, its CRC, and the CRC of what came in its place. -/
theorem request_body
    (h : ShortCorruption (request_frame command_id subfunction_id payload) altered) :
    ∃ command_id' subfunction_id' payload', payload'.length = payload.length ∧
      altered = protocol.request_body command_id' subfunction_id' payload' ++
        codecs.encode_32_bits_big_endian_8bits
          (tools.crc32 (protocol.request_body command_id subfunction_id payload) 0) ∧
      tools.crc32 (protocol.request_body command_id' subfunction_id' payload') 0 ≠
        tools.crc32 (protocol.request_body command_id subfunction_id payload) 0 := by
  generalize hcrc : codecs.encode_32_bits_big_endian_8bits
    (tools.crc32 (protocol.request_body command_id subfunction_id payload) 0) = crc
  have hfour : crc.length = 4 := by rw [← hcrc]; rfl
  generalize hbody : protocol.request_body command_id subfunction_id payload = body
  have hbody_length : body.length = payload.length + 4 := by rw [← hbody]; rfl
  have hframe : request_frame command_id subfunction_id payload = body ++ crc := by
    rw [request_frame, hcrc, hbody]
  rw [hframe] at h
  have hlength : altered.length = payload.length + 4 + 4 := by
    rw [h.length, List.length_append, hbody_length, hfour]
  have hrest : altered.drop body.length = crc := by
    apply List.ext_getElem?
    intro i
    rw [List.getElem?_drop]
    by_contra hdiffer
    have hlast := h.crc_kept (body.length + i) (by rwa [List.getElem?_append_right (by omega),
      Nat.add_sub_cancel_left])
    rw [List.length_append, hfour] at hlast
    omega
  have hfirst (i : Nat) : (altered.take body.length)[i]? ≠ body[i]? →
      altered[i]? ≠ (body ++ crc)[i]? := by
    intro hdiffer
    by_cases hi : i < body.length
    · rwa [List.getElem?_append_left hi, ← List.getElem?_take_of_lt hi]
    · refine absurd ?_ hdiffer
      rw [List.getElem?_take_eq_none (Nat.not_lt.mp hi), List.getElem?_eq_none (Nat.not_lt.mp hi)]
  have hwhole : altered = altered.take body.length ++ crc := by
    rw [← hrest, List.take_append_drop]
  have htake : (altered.take body.length).length = body.length := by
    rw [List.length_take, hlength]
    omega
  obtain ⟨start, hwithin⟩ := h.within
  obtain ⟨before, window, other, after, hbytes, hother, hsame, hshort⟩ :=
    split_at_window htake fun i hdiffer => hwithin i (hfirst i hdiffer)
  have hne : window ≠ other := by
    rintro rfl
    apply h.changed
    rw [hwhole, hother, hbytes]
  have hcrc_ne : tools.crc32 (altered.take body.length) 0 ≠ tools.crc32 body 0 := by
    rw [hother, hbytes]
    exact (tools.crc32_ne_of_window before after hsame hshort hne 0).symm
  obtain ⟨command_id', subfunction_id', c, d, payload', hbytes'⟩ :
      ∃ a b c d rest, altered.take body.length = a :: b :: c :: d :: rest := by
    rcases hcase : altered.take body.length with _ | ⟨a, _ | ⟨b, _ | ⟨c, _ | ⟨d, rest⟩⟩⟩⟩
    case cons.cons.cons.cons => exact ⟨a, b, c, d, rest, rfl⟩
    all_goals
      rw [hcase, hbody_length] at htake
      simp at htake
  have hpayload : payload'.length = payload.length := by
    rw [hbytes', hbody_length] at htake
    exact Nat.add_right_cancel (show payload'.length + 4 = payload.length + 4 from htake)
  have hkept (i : Nat) (hi : i = 2 ∨ i = 3) : (altered.take body.length)[i]? = body[i]? := by
    by_contra hdiffer
    have hbyte := h.length_kept i (hfirst i hdiffer)
    omega
  have hthird := hkept 2 (.inl rfl)
  have hfourth := hkept 3 (.inr rfl)
  rw [hbytes', ← hbody] at hthird hfourth
  have hbody' : altered.take body.length =
      protocol.request_body command_id' subfunction_id' payload' := by
    rw [hbytes', protocol.request_body, hpayload]
    injection hthird with hthird
    injection hfourth with hfourth
    rw [hthird, hfourth]
    rfl
  rw [hbody'] at hwhole hcrc_ne
  exact ⟨command_id', subfunction_id', payload', hpayload, hwhole, hcrc_ne⟩

/-- A single byte can be changed. -/
theorem of_set {frame : List uint8_t} {k : Nat} {byte : uint8_t} (hlength : k ≠ 2 ∧ k ≠ 3)
    (hcrc : k + 4 < frame.length) (hchanged : frame[k]? ≠ some byte) :
    ShortCorruption frame (frame.set k byte) := by
  have honly (i : Nat) (hdiffer : (frame.set k byte)[i]? ≠ frame[i]?) : i = k := by
    by_contra hi
    exact hdiffer (List.getElem?_set_ne (Ne.symm hi))
  refine ⟨List.length_set, fun hsame => hchanged ?_, fun i hi => ?_, fun i hi => ?_, k,
    fun i hi => ?_⟩
  · rw [← hsame, List.getElem?_set_self (by omega)]
  · rw [honly i hi]
    exact hlength
  · rw [honly i hi]
    exact hcrc
  · rw [honly i hi]
    omega

end ShortCorruption

namespace CommHandler

section

variable [Platform] {comm : CommHandler}

/-- A frame with a short corruption is never taken for a request, in which ever chunks and
from which ever prefix of it. -/
theorem short_corruption_refused (henabled : comm.m_enabled = true)
    (hstate : comm.m_state ≠ .Transmitting) (start : Timebase)
    {command_id subfunction_id : uint8_t} {payload altered : List uint8_t}
    (hlength : payload.length < 2 ^ 16)
    (hcorrupted : ShortCorruption (request_frame command_id subfunction_id payload) altered)
    {chunks : List Chunk} (hsome : ∀ c ∈ chunks, c.len ≠ 0)
    (huninterrupted : Chunk.Uninterrupted chunks)
    (hstream : chunks.flatMap Chunk.bytes <+: altered) :
    (run receive_chunk (comm.reset_rx start) chunks).request_received = false := by
  obtain ⟨command_id', subfunction_id', payload', hsame, rfl, hcrc⟩ := hcorrupted.request_body
  obtain ⟨rest, hrest⟩ := hstream
  have hreceived :=
    (represents_since_reset henabled hstate start hsome huninterrupted).request_received
  rw [CommHandler.request_received, hreceived, Bool.eq_false_iff]
  intro haccepted
  have hended := Parser.parse_ended comm.gate (.inl haccepted) rest
  rw [← Parser.parse_append, hrest] at hended
  rw [← hended] at haccepted
  have hright := Parser.crc_of_accepted rfl (hsame ▸ hlength) haccepted
  have hvalue := congrArg crc_value hright
  rw [crc_value_encode, crc_value_encode] at hvalue
  exact hcrc hvalue.symm

end

section

attribute [local instance] host.platform

/-- A request to connect in two chunks, its second byte changed. -/
def corrupted_chunks : List Chunk :=
  let altered := (request_frame 2 4 CommControl.CONNECT_MAGIC).set 1 5
  [⟨⟨0⟩, host.buffer_of (altered.take 6), 6⟩, ⟨⟨10⟩, host.buffer_of (altered.drop 6), 6⟩]

theorem short_corruption_refused_in_chunks :
    (run receive_chunk (fresh.reset_rx ⟨0⟩) corrupted_chunks).request_received = false := by
  have hcorrupted : ShortCorruption (request_frame 2 4 CommControl.CONNECT_MAGIC)
      ((request_frame 2 4 CommControl.CONNECT_MAGIC).set 1 5) :=
    .of_set (by decide) (by decide) (by decide)
  have hsoon : Chunk.Uninterrupted corrupted_chunks := by
    unfold Chunk.Uninterrupted
    decide
  exact short_corruption_refused (by decide) (by decide) ⟨0⟩ (by decide) hcorrupted (by decide)
    hsoon (by decide +kernel)

end

end CommHandler

end scrutiny.protocol
