import Scrutiny.Comm.Delivery
import Scrutiny.Foundation.Past

open foundation

namespace scrutiny.protocol

/-- A call of the interface of the comm handler. -/
inductive Call where
  | receive_data (data : ByteBuffer) (len : uint16_t)
  | process
  | wait_next_request
  | prepare_response
  | send_response (response : Response)
  | pop_data (len : uint16_t)
  | heartbeat (challenge : uint16_t)
  | connect
  | disconnect
  | reset
  | enable
  | disable

namespace CommHandler

section

variable [Platform]

/-- The effect of a call, made at some time. -/
def call (self : CommHandler) : Timebase × Call → CommHandler
  | (timebase, .receive_data data len) => self.receive_data timebase data len
  | (timebase, .process) => self.process timebase
  | (timebase, .wait_next_request) => self.wait_next_request timebase
  | (_, .prepare_response) => self.prepare_response
  | (_, .send_response response) => (self.send_response response).1
  | (timebase, .pop_data len) => (self.pop_data timebase len).1
  | (timebase, .heartbeat challenge) => (self.heartbeat timebase challenge).1
  | (timebase, .connect) => (self.connect timebase).1
  | (timebase, .disconnect) => self.disconnect timebase
  | (timebase, .reset) => self.reset timebase
  | (_, .enable) => { self with m_enabled := true }
  | (timebase, .disable) => self.disable timebase

/-- The states right after an initialization that accepted the sizes of the buffers. -/
def Initialized (self : CommHandler) : Prop :=
  ∃ (before : CommHandler) (rx_buffer : ByteBuffer) (rx_buffer_size : uint16_t)
    (tx_buffer : ByteBuffer) (tx_buffer_size : uint16_t) (timebase : Timebase) (seed : uint32_t),
    self = before.init rx_buffer rx_buffer_size tx_buffer tx_buffer_size timebase seed ∧
      self.is_enabled = true

def Reachable (self : CommHandler) : Prop :=
  ∃ (start : CommHandler) (calls : List (Timebase × Call)),
    Initialized start ∧ self = run call start calls

end

/-- A handler that is disabled transmits nothing either. -/
structure Sound (comm : CommHandler) : Prop where
  ready : comm.m_enabled = true → comm.Ready
  disabled : comm.m_enabled = false → comm.m_state = .Idle ∧ comm.m_nbytes_sent = 0 ∧
    comm.m_tx_buffer_size ≤ MAXIMUM_TX_BUFFER_SIZE

theorem sound_of_ready {comm : CommHandler} (h : comm.Ready) : Sound comm :=
  ⟨fun _ => h, fun hdisabled => absurd h.enabled (by rw [hdisabled]; decide)⟩

theorem sound_of_disabled {comm : CommHandler} (hdisabled : comm.m_enabled = false)
    (hidle : comm.m_state = .Idle) (hsent : comm.m_nbytes_sent = 0)
    (hsize : comm.m_tx_buffer_size ≤ MAXIMUM_TX_BUFFER_SIZE) : Sound comm :=
  ⟨fun henabled => absurd henabled (by rw [hdisabled]; decide), fun _ => ⟨hidle, hsent, hsize⟩⟩

theorem initialized_fits {rx_buffer tx_buffer : ByteBuffer} {before : CommHandler}
    {rx_buffer_size tx_buffer_size : uint16_t} {timebase : Timebase} {seed : uint32_t}
    (henabled : (before.init rx_buffer rx_buffer_size tx_buffer tx_buffer_size timebase
      seed).is_enabled = true) : tx_buffer_size ≤ MAXIMUM_TX_BUFFER_SIZE := by
  rw [init, is_enabled, reset_enabled] at henabled
  simp only [decide_eq_true_eq, not_or, gt_iff_lt, BitVec.not_lt] at henabled
  exact henabled.2.2

theorem Initialized.sound {comm : CommHandler} (h : Initialized comm) : Sound comm := by
  obtain ⟨before, rx_buffer, rx_buffer_size, tx_buffer, tx_buffer_size, timebase, seed, rfl,
    henabled⟩ := h
  exact sound_of_ready (ready_init henabled (initialized_fits henabled))

section

variable [Platform]

theorem call_ready {comm : CommHandler} (h : comm.Ready) (timebase : Timebase) (c : Call) :
    Sound (comm.call (timebase, c)) := by
  cases c with
  | receive_data data len => exact sound_of_ready (h.receive_data timebase data len)
  | process => exact sound_of_ready (h.process timebase)
  | wait_next_request => exact sound_of_ready (h.reset_rx timebase)
  | prepare_response =>
    exact sound_of_ready ⟨h.enabled, h.tx_buffer_size_le, h.nothing_sent⟩
  | send_response response => exact sound_of_ready (h.send_response response)
  | pop_data len => exact sound_of_ready (h.pop_data timebase len)
  | heartbeat challenge =>
    refine sound_of_ready ?_
    simp only [call, heartbeat]
    split
    · exact h
    · split
      · exact ⟨h.enabled, h.tx_buffer_size_le, h.nothing_sent⟩
      · exact h
  | connect => exact sound_of_ready (h.connect timebase)
  | disconnect => exact sound_of_ready (h.disconnect timebase)
  | reset => exact sound_of_ready (ready_reset h.enabled h.tx_buffer_size_le timebase)
  | enable => exact sound_of_ready ⟨rfl, h.tx_buffer_size_le, h.nothing_sent⟩
  | disable =>
    have hreset := ready_reset h.enabled h.tx_buffer_size_le timebase
    have hidle := reset_state comm timebase
    exact sound_of_disabled rfl hidle
      (hreset.nothing_sent (by rw [hidle]; exact State.noConfusion)) hreset.tx_buffer_size_le

theorem call_disabled {comm : CommHandler} (hdisabled : comm.m_enabled = false)
    (h : comm.m_state = .Idle ∧ comm.m_nbytes_sent = 0 ∧
      comm.m_tx_buffer_size ≤ MAXIMUM_TX_BUFFER_SIZE) (timebase : Timebase) (c : Call) :
    Sound (comm.call (timebase, c)) := by
  obtain ⟨hidle, hsent, hsize⟩ := h
  have hself : Sound comm := sound_of_disabled hdisabled hidle hsent hsize
  have hreset : Sound (comm.reset timebase) := by
    rw [CommHandler.reset, hdisabled, if_neg Bool.false_ne_true]
    exact sound_of_disabled rfl rfl hsent hsize
  cases c with
  | receive_data data len =>
    rw [call, receive_data, if_pos hdisabled]
    exact sound_of_disabled hdisabled hidle hsent hsize
  | process =>
    rcases process_cases comm timebase with hsame | hexpired
    · rw [call, hsame]
      exact hself
    · rw [call, hexpired]
      exact hreset
  | wait_next_request =>
    refine sound_of_disabled hdisabled ?_ hsent hsize
    simp [call, wait_next_request, reset_rx, hidle]
  | prepare_response => exact sound_of_disabled hdisabled hidle hsent hsize
  | send_response response =>
    rw [call, send_response]
    simp only [hdisabled, if_true]
    exact sound_of_disabled rfl hidle hsent hsize
  | pop_data len =>
    rw [call, pop_data, if_pos (by rw [hidle]; exact State.noConfusion)]
    exact hself
  | heartbeat challenge =>
    simp only [call, heartbeat, hdisabled, Bool.not_false, Bool.or_true, if_true]
    exact hself
  | connect =>
    simp only [call, connect, hdisabled, Bool.not_false, Bool.true_or, if_true]
    exact hself
  | disconnect =>
    refine sound_of_disabled hdisabled ?_ rfl hsize
    simp [call, disconnect, reset_tx, reset_rx, hidle]
  | reset => exact hreset
  | enable => exact sound_of_ready ⟨rfl, hsize, fun _ => hsent⟩
  | disable =>
    have hafter : (comm.reset timebase).m_enabled = false := by rw [reset_enabled, hdisabled]
    obtain ⟨hidle', hsent', hsize'⟩ := hreset.disabled hafter
    exact sound_of_disabled rfl hidle' hsent' hsize'

theorem call_sound {comm : CommHandler} (h : Sound comm) (c : Timebase × Call) :
    Sound (comm.call c) := by
  cases henabled : comm.m_enabled with
  | true => exact call_ready (h.ready henabled) c.1 c.2
  | false => exact call_disabled henabled (h.disabled henabled) c.1 c.2

theorem Reachable.sound {comm : CommHandler} (h : Reachable comm) : Sound comm := by
  obtain ⟨start, calls, hstart, rfl⟩ := h
  have hstep (s : CommHandler) (c : Timebase × Call) (hsound : s.Sound) : (s.call c).Sound :=
    call_sound hsound c
  exact (always_of_step hstep hstart.sound calls).last

end

section

attribute [local instance] host.platform

/-- A handler right after its initialization. -/
def fresh : CommHandler :=
  host.comm_handler.init (fun _ => 0) 128 (fun _ => 0) 128 ⟨0⟩ 0

theorem fresh_initialized : Initialized fresh := by
  refine ⟨host.comm_handler, fun _ => 0, 128, fun _ => 0, 128, ⟨0⟩, 0, rfl, ?_⟩
  decide

theorem fresh_reachable : Reachable fresh := ⟨fresh, [], fresh_initialized, rfl⟩

end

end CommHandler

end scrutiny.protocol
