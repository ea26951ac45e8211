import Scrutiny.Protocol.CommHandler
import Scrutiny.CommonCodecs
import Scrutiny.Foundation.Run

/-! The grammar of the requests, as a parser that reads one byte at a time:
command (below 0x80), subfunction, length, payload, CRC. -/

open foundation

namespace scrutiny.protocol

/-- What the acceptance of a frame depends on besides its bytes. -/
structure Gate where
  rx_buffer_size : uint16_t
  session_active : Bool

/-- The bytes of the frame that came in so far. -/
structure Parser where
  received : List uint8_t
  rx_error : RxError
  stopped : Bool
  accepted : Bool

namespace Parser

def empty : Parser := ⟨[], .None, false, false⟩

def command_id (self : Parser) : uint8_t := self.received.getD 0 0
def subfunction_id (self : Parser) : uint8_t := self.received.getD 1 0
def data_length (self : Parser) : uint16_t :=
  (self.received.getD 2 0).setWidth 16 <<< 8 ||| (self.received.getD 3 0).setWidth 16
def payload (self : Parser) : List uint8_t :=
  (self.received.drop 4).take self.data_length.toNat

/-- The CRC of the bytes received so far, those of the CRC itself left out. -/
def crc (self : Parser) : uint32_t :=
  tools.crc32 (self.received.take (4 + self.data_length.toNat)) 0

/-- The bytes received of the CRC of the frame. -/
def crc_bytes (self : Parser) : List uint8_t := self.received.drop (4 + self.data_length.toNat)

def rx_state (self : Parser) : RxFSMState :=
  if self.accepted then .WaitForProcess
  else if self.stopped then .Error
  else if self.received.length = 0 then .WaitForCommand
  else if self.received.length = 1 then .WaitForSubfunction
  else if self.received.length < 4 then .WaitForLength
  else if self.received.length < 4 + self.data_length.toNat then .WaitForData
  else .WaitForCRC

/-- Without a session, only a Discover with its magic or a Connect is let through. -/
def admitted (gate : Gate) (self : Parser) : Bool :=
  gate.session_active ||
    (CommandId.cast self.command_id == some .CommControl &&
      (CommControl.Subfunction.cast self.subfunction_id == some .Connect ||
        (CommControl.Subfunction.cast self.subfunction_id == some .Discover &&
          CommControl.DISCOVER_MAGIC.isPrefixOf self.payload)))

def add (self : Parser) (byte : uint8_t) : Parser :=
  { self with received := self.received ++ [byte] }

def stop (self : Parser) (rx_error : RxError) : Parser := { self with rx_error, stopped := true }

/-- A frame that is complete is accepted, or dropped. -/
def finish (gate : Gate) (self : Parser) : Parser :=
  if self.crc_bytes.length < 4 then self
  else if self.crc_bytes = codecs.encode_32_bits_big_endian_8bits self.crc ∧
      self.admitted gate then { self with accepted := true }
  else empty

def step (gate : Gate) (self : Parser) (byte : uint8_t) : Parser :=
  match self.rx_state with
  | .WaitForCommand => if byte < 0x80 then self.add byte else self.stop .InvalidCommand
  | .WaitForSubfunction => self.add byte
  | .WaitForLength => self.add byte
  | .WaitForData =>
    if self.data_length ≤ gate.rx_buffer_size then self.add byte else self.stop .Overflow
  | .WaitForCRC => (self.add byte).finish gate
  | .WaitForProcess => self
  | .Error => self

/-- The parser after some bytes. -/
def parse (gate : Gate) (self : Parser) (bytes : List uint8_t) : Parser :=
  run (step gate) self bytes

theorem parse_append (gate : Gate) (self : Parser) (bytes others : List uint8_t) :
    self.parse gate (bytes ++ others) = (self.parse gate bytes).parse gate others :=
  run_append _ _ _ _

@[simp] theorem parse_nil (gate : Gate) (self : Parser) : self.parse gate [] = self := rfl

@[simp] theorem parse_cons (gate : Gate) (self : Parser) (byte : uint8_t) (bytes : List uint8_t) :
    self.parse gate (byte :: bytes) = (self.step gate byte).parse gate bytes := rfl

section

variable {self : Parser} (hshort : self.received.length ≤ 4 + self.data_length.toNat)

include hshort

theorem crc_bytes_of_short : self.crc_bytes = [] := List.drop_eq_nil_of_le hshort

theorem crc_of_short : self.crc = tools.crc32 self.received 0 := by
  rw [crc, List.take_of_length_le hshort]

theorem payload_of_short : self.payload = self.received.drop 4 := by
  refine List.take_of_length_le ?_
  rw [List.length_drop]
  omega

end

/-- Nothing is read after the end of reception. -/
theorem parse_ended (gate : Gate) {self : Parser} (hended : self.accepted ∨ self.stopped)
    (bytes : List uint8_t) : self.parse gate bytes = self := by
  have hstep (byte : uint8_t) : self.step gate byte = self := by
    rcases hended with haccepted | hstopped
    · simp [step, rx_state, haccepted]
    · by_cases haccepted : self.accepted
      · simp [step, rx_state, haccepted]
      · simp [step, rx_state, haccepted, hstopped]
  induction bytes with
  | nil => rfl
  | cons byte bytes ih =>
    rw [parse_cons, hstep]
    exact ih

/-- How much of the frame came in, in each state of reception. -/
theorem length_received (self : Parser) :
    match self.rx_state with
    | .WaitForData => 4 ≤ self.received.length ∧
        self.received.length < 4 + self.data_length.toNat
    | .WaitForCRC => 4 + self.data_length.toNat ≤ self.received.length
    | .WaitForProcess => True
    | .Error => True
    | _ => self.received.length < 4 := by
  unfold rx_state
  split_ifs
  all_goals simp only
  all_goals omega

/-- Where a command is waited for, nothing of a frame came in. -/
theorem nothing_received {self : Parser} (h : self.rx_state = .WaitForCommand) :
    self.received = [] ∧ self.stopped = false ∧ self.accepted = false := by
  unfold rx_state at h
  split at h
  · cases h
  · rename_i haccepted
    split at h
    · cases h
    · rename_i hstopped
      split at h
      · rename_i hzero
        exact ⟨List.length_eq_zero_iff.mp hzero, Bool.eq_false_of_not_eq_true hstopped,
          Bool.eq_false_of_not_eq_true haccepted⟩
      · repeat' split at h
        all_goals cases h

/-- In the middle of a frame. -/
abbrev reading (rx_error : RxError) (received : List uint8_t) : Parser :=
  ⟨received, rx_error, false, false⟩

section

variable (rx_error : RxError) {a b c d : uint8_t}

theorem data_length_reading (rest : List uint8_t) :
    (reading rx_error (a :: b :: c :: d :: rest)).data_length =
      c.setWidth 16 <<< 8 ||| d.setWidth 16 := rfl

theorem rx_state_reading_data {payload : List uint8_t}
    (hmore : payload.length < (reading rx_error (a :: b :: c :: d :: payload)).data_length.toNat) :
    (reading rx_error (a :: b :: c :: d :: payload)).rx_state = .WaitForData := by
  have hheader : (a :: b :: c :: d :: payload).length = payload.length + 4 := rfl
  simp only [rx_state, hheader, Bool.false_eq_true, if_false]
  rw [if_neg (by omega), if_neg (by omega), if_neg (by omega), if_pos (by omega)]

theorem rx_state_reading_crc {rest : List uint8_t}
    (hpayload : (reading rx_error (a :: b :: c :: d :: rest)).data_length.toNat ≤ rest.length) :
    (reading rx_error (a :: b :: c :: d :: rest)).rx_state = .WaitForCRC := by
  have hheader : (a :: b :: c :: d :: rest).length = rest.length + 4 := rfl
  simp only [rx_state, hheader, Bool.false_eq_true, if_false]
  rw [if_neg (by omega), if_neg (by omega), if_neg (by omega), if_neg (by omega)]

section

variable {payload crc : List uint8_t} (hpayload : payload.length =
  (reading rx_error (a :: b :: c :: d :: (payload ++ crc))).data_length.toNat)

include hpayload

theorem payload_reading_crc :
    (reading rx_error (a :: b :: c :: d :: (payload ++ crc))).payload = payload :=
  List.take_left' hpayload

theorem crc_reading_crc : (reading rx_error (a :: b :: c :: d :: (payload ++ crc))).crc =
    tools.crc32 (a :: b :: c :: d :: payload) 0 := by
  have htake : (a :: b :: c :: d :: (payload ++ crc)).take (4 +
      (reading rx_error (a :: b :: c :: d :: (payload ++ crc))).data_length.toNat) =
        a :: b :: c :: d :: payload := by
    rw [← hpayload, Nat.add_comm]
    simp
  rw [Parser.crc, htake]

theorem crc_bytes_reading_crc :
    (reading rx_error (a :: b :: c :: d :: (payload ++ crc))).crc_bytes = crc := by
  have hdrop : (a :: b :: c :: d :: (payload ++ crc)).drop (4 +
      (reading rx_error (a :: b :: c :: d :: (payload ++ crc))).data_length.toNat) = crc := by
    rw [← hpayload, Nat.add_comm]
    simp
  exact hdrop

end

/-- The bytes received in each state of reception. -/
theorem reading_cases (received : List uint8_t) :
    received = [] ∨ (∃ a, received = [a]) ∨ (∃ a b, received = [a, b]) ∨
      (∃ a b c, received = [a, b, c]) ∨
      (∃ a b c d payload, received = a :: b :: c :: d :: payload ∧
        payload.length < (reading rx_error received).data_length.toNat) ∨
      ∃ a b c d payload crc, received = a :: b :: c :: d :: (payload ++ crc) ∧
        payload.length = (reading rx_error received).data_length.toNat := by
  match received with
  | [] => simp
  | [a] => simp
  | [a, b] => simp
  | [a, b, c] => simp
  | a :: b :: c :: d :: rest =>
    refine .inr (.inr (.inr (.inr ?_)))
    generalize hlength : (reading rx_error (a :: b :: c :: d :: rest)).data_length.toNat = length
    by_cases hdata : rest.length < length
    · exact .inl ⟨a, b, c, d, rest, rfl, hdata⟩
    · refine .inr ⟨a, b, c, d, rest.take length, rest.drop length, ?_, ?_⟩
      · rw [List.take_append_drop]
      · rw [List.length_take]
        omega

theorem parse_data (gate : Gate) (payload bytes : List uint8_t)
    (hfits : (reading rx_error (a :: b :: c :: d :: payload)).data_length ≤ gate.rx_buffer_size)
    (hroom : payload.length + bytes.length ≤
      (reading rx_error (a :: b :: c :: d :: payload)).data_length.toNat) :
    (reading rx_error (a :: b :: c :: d :: payload)).parse gate bytes =
      reading rx_error (a :: b :: c :: d :: (payload ++ bytes)) := by
  induction bytes generalizing payload with
  | nil => simp
  | cons byte bytes ih =>
    rw [List.length_cons] at hroom
    have hstate : (reading rx_error (a :: b :: c :: d :: payload)).rx_state = .WaitForData :=
      rx_state_reading_data rx_error (by omega)
    have hstep : (reading rx_error (a :: b :: c :: d :: payload)).step gate byte =
        reading rx_error (a :: b :: c :: d :: (payload ++ [byte])) := by
      simp [step, hstate, hfits, add]
    have hroom' : (payload ++ [byte]).length + bytes.length ≤
        (reading rx_error (a :: b :: c :: d :: (payload ++ [byte]))).data_length.toNat := by
      rw [List.length_append, List.length_singleton, data_length_reading]
      rw [data_length_reading] at hroom
      omega
    have hrest : (reading rx_error (a :: b :: c :: d :: (payload ++ [byte]))).parse gate bytes =
        reading rx_error (a :: b :: c :: d :: ((payload ++ [byte]) ++ bytes)) :=
      ih _ hfits hroom'
    rw [parse_cons, hstep, hrest, List.append_assoc, List.singleton_append]

theorem step_crc (gate : Gate) {payload crc : List uint8_t} (byte : uint8_t)
    (hpayload : payload.length =
      (reading rx_error (a :: b :: c :: d :: (payload ++ crc))).data_length.toNat) :
    (reading rx_error (a :: b :: c :: d :: (payload ++ crc))).step gate byte =
      (reading rx_error (a :: b :: c :: d :: (payload ++ (crc ++ [byte])))).finish gate := by
  have hstate : (reading rx_error (a :: b :: c :: d :: (payload ++ crc))).rx_state =
      .WaitForCRC := by
    apply rx_state_reading_crc
    rw [List.length_append, ← hpayload]
    exact Nat.le_add_right _ _
  rw [step, hstate, add]
  simp

/-- The CRC is collected up to its last byte. -/
theorem parse_crc (gate : Gate) {payload : List uint8_t} (crc bytes : List uint8_t)
    (hpayload : payload.length =
      (reading rx_error (a :: b :: c :: d :: (payload ++ crc))).data_length.toNat)
    (hpart : crc.length + bytes.length < 4) :
    (reading rx_error (a :: b :: c :: d :: (payload ++ crc))).parse gate bytes =
      reading rx_error (a :: b :: c :: d :: (payload ++ (crc ++ bytes))) := by
  induction bytes generalizing crc with
  | nil => simp
  | cons byte bytes ih =>
    rw [List.length_cons] at hpart
    have hpayload' : payload.length = (reading rx_error
        (a :: b :: c :: d :: (payload ++ (crc ++ [byte])))).data_length.toNat := hpayload
    have hstep : (reading rx_error (a :: b :: c :: d :: (payload ++ crc))).step gate byte =
        reading rx_error (a :: b :: c :: d :: (payload ++ (crc ++ [byte]))) := by
      rw [step_crc rx_error gate byte hpayload, finish,
        crc_bytes_reading_crc rx_error hpayload', if_pos]
      rw [List.length_append, List.length_singleton]
      omega
    rw [parse_cons, hstep, ih _ hpayload' (by simp; omega), List.append_assoc,
      List.singleton_append]

theorem parse_crc_whole (gate : Gate) {payload crc : List uint8_t} (hpayload : payload.length =
      (reading rx_error (a :: b :: c :: d :: payload)).data_length.toNat)
    (hcrc : crc.length = 4) :
    (reading rx_error (a :: b :: c :: d :: payload)).parse gate crc =
      (reading rx_error (a :: b :: c :: d :: (payload ++ crc))).finish gate := by
  obtain ⟨first, last, rfl⟩ : ∃ first last, crc = first ++ [last] :=
    ⟨crc.dropLast, crc.getLast (List.ne_nil_of_length_eq_add_one hcrc),
      (List.dropLast_append_getLast _).symm⟩
  rw [List.length_append, List.length_singleton] at hcrc
  have hfirst := parse_crc rx_error gate [] first
    (by rw [List.append_nil]; exact hpayload) (by rw [List.length_nil]; omega)
  rw [List.append_nil, List.nil_append] at hfirst
  rw [parse_append, hfirst, parse_cons, parse_nil, step_crc rx_error gate last hpayload]

end

end Parser

end scrutiny.protocol
