import Scrutiny.Protocol.CommHandler

open foundation

namespace scrutiny.protocol.CommHandler

/-- What reception leaves alone: the transmission, and the session. -/
structure ReceptionFrame (before after : CommHandler) : Prop where
  enabled : after.m_enabled = before.m_enabled
  session_active : after.m_session_active = before.m_session_active
  tx_buffer_size : after.m_tx_buffer_size = before.m_tx_buffer_size
  active_response : after.m_active_response = before.m_active_response
  nbytes_to_send : after.m_nbytes_to_send = before.m_nbytes_to_send
  nbytes_sent : after.m_nbytes_sent = before.m_nbytes_sent
  not_transmitting : before.m_state ≠ .Transmitting → after.m_state ≠ .Transmitting

theorem ReceptionFrame.refl (comm : CommHandler) : ReceptionFrame comm comm :=
  ⟨rfl, rfl, rfl, rfl, rfl, rfl, id⟩

theorem ReceptionFrame.trans {first second third : CommHandler}
    (h : ReceptionFrame first second) (h' : ReceptionFrame second third) :
    ReceptionFrame first third where
  enabled := h'.enabled.trans h.enabled
  session_active := h'.session_active.trans h.session_active
  tx_buffer_size := h'.tx_buffer_size.trans h.tx_buffer_size
  active_response := h'.active_response.trans h.active_response
  nbytes_to_send := h'.nbytes_to_send.trans h.nbytes_to_send
  nbytes_sent := h'.nbytes_sent.trans h.nbytes_sent
  not_transmitting := fun hstate => h'.not_transmitting (h.not_transmitting hstate)

theorem reset_rx_frame (self : CommHandler) (timebase : Timebase) :
    ReceptionFrame self (self.reset_rx timebase) := by
  refine ⟨rfl, rfl, rfl, rfl, rfl, rfl, fun hstate => ?_⟩
  simp only [reset_rx]
  split
  · exact State.noConfusion
  · exact hstate

theorem process_active_request_frame (self : CommHandler) (timebase : Timebase) :
    ReceptionFrame self (self.process_active_request timebase) := by
  unfold process_active_request
  generalize (if self.m_session_active = false then
    self.received_discover_request || self.received_connect_request else true) = must_process
  cases must_process with
  | true => exact ⟨rfl, rfl, rfl, rfl, rfl, rfl, id⟩
  | false => exact reset_rx_frame self timebase

theorem receive_step_frame (self : CommHandler) (timebase : Timebase) (data : ByteBuffer)
    (len i : Nat) : ReceptionFrame self (self.receive_step timebase data len i).1 := by
  cases hstate : self.m_rx_state with
  | WaitForCommand =>
    simp only [receive_step, hstate]
    split <;> exact ⟨rfl, rfl, rfl, rfl, rfl, rfl, id⟩
  | WaitForSubfunction =>
    simp only [receive_step, hstate]
    exact ⟨rfl, rfl, rfl, rfl, rfl, rfl, id⟩
  | WaitForLength =>
    simp only [receive_step, hstate]
    repeat' split
    all_goals exact ⟨rfl, rfl, rfl, rfl, rfl, rfl, id⟩
  | WaitForData =>
    simp only [receive_step, hstate]
    repeat' split
    all_goals exact ⟨rfl, rfl, rfl, rfl, rfl, rfl, id⟩
  | WaitForCRC =>
    simp only [receive_step, hstate]
    split
    · split
      · dsimp only
        refine ReceptionFrame.trans ?_ (process_active_request_frame _ timebase)
        exact ⟨rfl, rfl, rfl, rfl, rfl, rfl, fun _ => State.noConfusion⟩
      · dsimp only
        refine ReceptionFrame.trans ?_ (reset_rx_frame _ timebase)
        exact ⟨rfl, rfl, rfl, rfl, rfl, rfl, fun _ => State.noConfusion⟩
    · exact ⟨rfl, rfl, rfl, rfl, rfl, rfl, id⟩
  | WaitForProcess =>
    simp only [receive_step, hstate]
    exact ReceptionFrame.refl self
  | Error =>
    simp only [receive_step, hstate]
    exact ReceptionFrame.refl self

theorem receive_loop_frame (timebase : Timebase) (data : ByteBuffer) (len fuel : Nat)
    (self : CommHandler) (i : Nat) :
    ReceptionFrame self (receive_loop timebase data len fuel self i) := by
  induction fuel generalizing self i with
  | zero => exact ReceptionFrame.refl self
  | succ fuel ih =>
    rw [receive_loop]
    split
    · exact (receive_step_frame self timebase data len i).trans (ih _ _)
    · exact ReceptionFrame.refl self

/-- What reception changes. -/
def Receives (before after : CommHandler) : Prop :=
  ∃ state request timestamp received rx_state error per_state_data crc, after = { before with
    m_state := state
    m_active_request := request
    m_last_rx_timestamp := timestamp
    m_request_received := received
    m_rx_state := rx_state
    m_rx_error := error
    m_per_state_data := per_state_data
    m_crc := crc }

theorem Receives.refl (comm : CommHandler) : Receives comm comm :=
  ⟨_, _, _, _, _, _, _, _, rfl⟩

theorem Receives.trans {first second third : CommHandler} (h : Receives first second)
    (h' : Receives second third) : Receives first third := by
  obtain ⟨_, _, _, _, _, _, _, _, rfl⟩ := h
  obtain ⟨_, _, _, _, _, _, _, _, rfl⟩ := h'
  exact ⟨_, _, _, _, _, _, _, _, rfl⟩

theorem process_active_request_receives (self : CommHandler) (timebase : Timebase) :
    Receives self (self.process_active_request timebase) := by
  unfold process_active_request
  generalize (if self.m_session_active = false then
    self.received_discover_request || self.received_connect_request else true) = must_process
  cases must_process <;> exact ⟨_, _, _, _, _, _, _, _, rfl⟩

theorem receive_step_receives (self : CommHandler) (timebase : Timebase) (data : ByteBuffer)
    (len i : Nat) : Receives self (self.receive_step timebase data len i).1 := by
  cases hstate : self.m_rx_state with
  | WaitForCRC =>
    simp only [receive_step, hstate]
    split
    · split
      · exact Receives.trans ⟨_, _, _, _, _, _, _, _, rfl⟩
          (process_active_request_receives _ timebase)
      · exact ⟨_, _, _, _, _, _, _, _, rfl⟩
    · exact ⟨_, _, _, _, _, _, _, _, rfl⟩
  | WaitForCommand =>
    simp only [receive_step, hstate]
    split <;> exact ⟨_, _, _, _, _, _, _, _, rfl⟩
  | WaitForSubfunction =>
    simp only [receive_step, hstate]
    exact ⟨_, _, _, _, _, _, _, _, rfl⟩
  | WaitForLength =>
    simp only [receive_step, hstate]
    repeat' split
    all_goals exact ⟨_, _, _, _, _, _, _, _, rfl⟩
  | WaitForData =>
    simp only [receive_step, hstate]
    repeat' split
    all_goals exact ⟨_, _, _, _, _, _, _, _, rfl⟩
  | WaitForProcess =>
    simp only [receive_step, hstate]
    exact Receives.refl self
  | Error =>
    simp only [receive_step, hstate]
    exact Receives.refl self

theorem receive_loop_receives (timebase : Timebase) (data : ByteBuffer) (len fuel : Nat)
    (self : CommHandler) (i : Nat) : Receives self (receive_loop timebase data len fuel self i) := by
  induction fuel generalizing self i with
  | zero => exact Receives.refl self
  | succ fuel ih =>
    rw [receive_loop]
    split
    · exact (receive_step_receives self timebase data len i).trans (ih _ _)
    · exact Receives.refl self

variable [Platform]

theorem begin_reception_frame (self : CommHandler) (timebase : Timebase) :
    ReceptionFrame self (self.begin_reception timebase) := by
  have hstart (comm : CommHandler) : ReceptionFrame comm { comm with
      m_last_rx_timestamp := timebase.get_timestamp
      m_state := if comm.m_state = .Idle then .Receiving else comm.m_state } := by
    refine ⟨rfl, rfl, rfl, rfl, rfl, rfl, fun hstate => ?_⟩
    simp only
    split
    · exact State.noConfusion
    · exact hstate
  unfold begin_reception
  refine ReceptionFrame.trans ?_ (hstart _)
  split
  · exact ⟨rfl, rfl, rfl, rfl, rfl, rfl, fun _ => State.noConfusion⟩
  · exact ReceptionFrame.refl self

theorem receive_data_frame (self : CommHandler) (timebase : Timebase) (data : ByteBuffer)
    (len : uint16_t) : ReceptionFrame self (self.receive_data timebase data len) := by
  unfold receive_data
  split
  · exact ⟨rfl, rfl, rfl, rfl, rfl, rfl, id⟩
  · split
    · exact ReceptionFrame.refl self
    · refine ReceptionFrame.trans ?_ (receive_loop_frame timebase data len.toNat _ _ 0)
      split
      · exact begin_reception_frame self timebase
      · exact ReceptionFrame.refl self

theorem begin_reception_receives (self : CommHandler) (timebase : Timebase) :
    Receives self (self.begin_reception timebase) := by
  unfold begin_reception
  simp only
  split <;> exact ⟨_, _, _, _, _, _, _, _, rfl⟩

theorem receive_data_receives (self : CommHandler) (timebase : Timebase)
    (data : ByteBuffer) (len : uint16_t) : Receives self (self.receive_data timebase data len) := by
  unfold receive_data
  split
  · exact ⟨_, _, _, _, _, _, _, _, rfl⟩
  · split
    · exact Receives.refl self
    · refine Receives.trans ?_ (receive_loop_receives timebase data len.toNat _ _ 0)
      split
      · exact begin_reception_receives self timebase
      · exact Receives.refl self

end scrutiny.protocol.CommHandler
