import Scrutiny.Requests.Naming
import Scrutiny.Session.Lifecycle

open foundation

namespace scrutiny

open protocol protocol.CommHandler

namespace protocol.CommHandler

/-- The buffers stay as they were given to the handler. -/
structure SameBuffers (before after : CommHandler) : Prop where
  rx_buffer_size : after.m_rx_buffer_size = before.m_rx_buffer_size
  tx_buffer_size : after.m_tx_buffer_size = before.m_tx_buffer_size
  room : after.m_active_response.data_max_length = before.m_active_response.data_max_length

namespace SameBuffers

variable {first second third : CommHandler}

theorem refl (comm : CommHandler) : SameBuffers comm comm := ⟨rfl, rfl, rfl⟩

theorem trans (h : SameBuffers first second) (h' : SameBuffers second third) :
    SameBuffers first third where
  rx_buffer_size := h'.rx_buffer_size.trans h.rx_buffer_size
  tx_buffer_size := h'.tx_buffer_size.trans h.tx_buffer_size
  room := h'.room.trans h.room

end SameBuffers

/-- The response object knows how much room there is for its payload. -/
structure Roomy (comm : CommHandler) : Prop where
  min : MINIMUM_TX_BUFFER_SIZE ≤ comm.m_tx_buffer_size
  room : comm.m_active_response.data_max_length = comm.m_tx_buffer_size

theorem SameBuffers.roomy {before after : CommHandler} (h : SameBuffers before after)
    (hroomy : Roomy before) : Roomy after := by
  refine ⟨?_, ?_⟩
  · rw [h.tx_buffer_size]
    exact hroomy.min
  · rw [h.room, h.tx_buffer_size]
    exact hroomy.room

theorem reset_same_buffers (self : CommHandler) (timebase : Timebase) :
    SameBuffers self (self.reset timebase) := by
  unfold reset
  simp only
  split <;> exact ⟨rfl, rfl, rfl⟩

theorem pop_data_same_buffers (self : CommHandler) (timebase : Timebase) (len : uint16_t) :
    SameBuffers self (self.pop_data timebase len).1 := by
  rcases pop_data_cases self timebase len with ⟨_, hself⟩ | ⟨_, sent, hsends⟩ | ⟨_, sent, hends⟩
  · rw [hself]
    exact .refl self
  · rw [hsends]
    exact ⟨rfl, rfl, rfl⟩
  · rw [hends]
    exact ⟨rfl, rfl, rfl⟩

theorem add_crc_room (self : CommHandler) (response : Response) :
    (self.add_crc response).data_max_length = response.data_max_length := by
  unfold add_crc
  split <;> rfl

theorem send_response_same_buffers (self : CommHandler) (response : Response) :
    SameBuffers self (self.send_response response).1 := by
  unfold send_response
  simp only
  split
  · exact ⟨rfl, rfl, rfl⟩
  · split
    · exact ⟨rfl, rfl, rfl⟩
    · split
      · exact ⟨rfl, rfl, rfl⟩
      · exact ⟨rfl, rfl, add_crc_room _ _⟩

theorem receive_data_same_buffers [Platform] (self : CommHandler) (timebase : Timebase)
    (data : ByteBuffer) (len : uint16_t) :
    SameBuffers self (self.receive_data timebase data len) := by
  obtain ⟨_, _, _, _, _, _, _, _, hcomm⟩ := receive_data_receives self timebase data len
  rw [hcomm]
  exact ⟨rfl, rfl, rfl⟩

theorem process_same_buffers [Platform] (self : CommHandler) (timebase : Timebase) :
    SameBuffers self (self.process timebase) := by
  rcases process_cases self timebase with hsame | hreset
  · rw [hsame]
    exact .refl self
  · rw [hreset]
    exact reset_same_buffers self timebase

end protocol.CommHandler

section

variable [Platform]

namespace MainHandler

theorem check_finished_sending_same_buffers (self : MainHandler) :
    SameBuffers self.m_comm_handler self.check_finished_sending.m_comm_handler := by
  unfold check_finished_sending
  split
  · split
    · simp only
      split <;> exact ⟨rfl, rfl, rfl⟩
    · exact .refl _
  · exact .refl _

theorem begin_process_same_buffers (s : System) (timestep_100ns : timediff_t) :
    SameBuffers s.comm (begin_process s timestep_100ns).comm := by
  rw [System.comm, System.comm, begin_process_main]
  exact process_same_buffers _ _

/-- The response object once the request is executed. -/
theorem execute_request_response (s : System) (stack : Stack) :
    (execute_request s stack).comm.m_active_response =
      let ((code, response), _) := process_command (prepared s) stack s.comm.m_active_request
        (blank_response s)
      { response with
        response_code := code.code
        data_length := if code ≠ .OK then 0 else response.data_length } := rfl

variable {s : System} (hroomy : s.comm.Roomy) (hcallback : RespectsLength s.main.m_config)

include hroomy hcallback

theorem executed_fits (stack : Stack) : (blank_response s).Fits
    (process_command (prepared s) stack s.comm.m_active_request (blank_response s)).1 := by
  have hroom : (blank_response s).data_max_length = s.comm.m_tx_buffer_size := hroomy.room
  refine process_command_fits ?_ rfl (prepared s) hroom.symm hcallback stack _
  rw [hroom]
  exact hroomy.min

theorem execute_request_same_buffers (stack : Stack) :
    SameBuffers s.comm (execute_request s stack).comm := by
  have hroom : (execute_request s stack).comm.m_active_response.data_max_length =
      s.comm.m_active_response.data_max_length :=
    (executed_fits hroomy hcallback stack).inside.data_max_length
  refine ⟨?_, execute_request_tx_buffer_size s stack, hroom⟩
  obtain ⟨response, hcomm⟩ := execute_request_comm s stack
  split at hcomm
  · rw [hcomm]
    simp only [CommHandler.connect]
    split <;> rfl
  · obtain ⟨timestamp, challenge, received, hcomm⟩ := hcomm
    rw [hcomm]

/-- Whatever is answered can be sent. -/
theorem executed_length_le (stack : Stack) :
    (execute_request s stack).comm.m_active_response.data_length ≤ s.comm.m_tx_buffer_size := by
  have hfits := executed_fits hroomy hcallback stack
  have hroom : (blank_response s).data_max_length = s.comm.m_tx_buffer_size := hroomy.room
  rw [execute_request_response]
  simp only
  split
  · exact Nat.zero_le _
  · rename_i hok
    rw [← hroom]
    exact hfits.data_length (not_not.mp hok)

omit hroomy hcallback

theorem executed_same_request (s : System) (stack : Stack) :
    (execute_request s stack).comm.m_active_response.command_id =
        s.comm.m_active_request.command_id ∧
      (execute_request s stack).comm.m_active_response.subfunction_id =
        s.comm.m_active_request.subfunction_id := by
  have hsame := process_command_same_request (blank_response s) (prepared s) stack
    s.comm.m_active_request
  exact ⟨hsame.command_id, hsame.subfunction_id⟩

/-- The response that is given to the comm handler is that of the request, but for the code
when it took too long. -/
theorem final_response_executed {s : System} {response : Response}
    (hfinal : final_response s = some response) :
    response = { s.comm.m_active_response with response_code := response.response_code } := by
  unfold final_response at hfinal
  simp only at hfinal
  split at hfinal
  · split at hfinal
    · cases hfinal
      rfl
    · cases hfinal
  · cases hfinal
  · cases hfinal
    rfl

theorem finish_request_same_buffers (s : System) :
    SameBuffers s.comm (finish_request s).comm := by
  cases hfinal : final_response s with
  | none =>
    obtain ⟨timestamp, processing, taken, hfinish⟩ := finish_request_none hfinal
    rw [hfinish]
    exact .refl s.comm
  | some response =>
    have hroom : response.data_max_length = s.comm.m_active_response.data_max_length := by
      rw [final_response_executed hfinal]
    rw [finish_request_some hfinal]
    refine SameBuffers.trans ?_ (send_response_same_buffers
      { s.comm with m_active_response := response } response)
    exact ⟨rfl, rfl, hroom⟩

end MainHandler

namespace System

open MainHandler

theorem step_config (s : System) (e : Event) : (step s e).main.m_config = s.main.m_config := by
  cases e with
  | receive_data data len => rfl
  | pop_data len => exact (check_finished_sending_frame _).2
  | process timestep_100ns stack =>
    rw [step, MainHandler.process]
    split
    · rfl
    · simp only
      rw [end_process_config]
      have hbegin : (begin_process s timestep_100ns).main.m_config = s.main.m_config := by
        rw [begin_process_main]
      exact (serve_request_config (begin_process s timestep_100ns) stack).trans hbegin
  | loop_process id timestep_100ns =>
    obtain ⟨m_datalogging, hmain⟩ := loop_process_main s id timestep_100ns
    rw [hmain]
  | application bytes => rfl

theorem run_config (s : System) (events : List Event) :
    (run step s events).main.m_config = s.main.m_config := by
  induction events generalizing s with
  | nil => rfl
  | cons e events ih => exact (ih (step s e)).trans (step_config s e)

theorem step_same_buffers {s : System} (h : s.main.Ready) (hroomy : s.comm.Roomy)
    (hcallback : RespectsLength s.main.m_config) (e : Event) :
    SameBuffers s.comm (step s e).comm := by
  cases e with
  | receive_data data len => exact receive_data_same_buffers s.comm s.main.m_timebase data len
  | pop_data len =>
    let popped := s.set_comm (s.comm.pop_data s.main.m_timebase len).1
    exact (pop_data_same_buffers s.comm s.main.m_timebase len).trans
      (check_finished_sending_same_buffers popped.main)
  | process timestep_100ns stack =>
    let begun := begin_process s timestep_100ns
    have hbegun : SameBuffers s.comm begun.comm := begin_process_same_buffers s timestep_100ns
    have hconfig : begun.main.m_config = s.main.m_config := by
      simp only [begun]
      rw [begin_process_main]
    have hserved : SameBuffers begun.comm (serve_request begun stack).comm := by
      unfold serve_request
      split
      · exact (execute_request_same_buffers (hbegun.roomy hroomy) (hconfig ▸ hcallback)
          stack).trans (finish_request_same_buffers _)
      · exact .refl _
    rw [step, process_eq h.enabled, end_process_comm]
    exact (hbegun.trans hserved).trans (check_finished_sending_same_buffers _)
  | loop_process id timestep_100ns =>
    obtain ⟨m_datalogging, hmain⟩ := loop_process_main s id timestep_100ns
    rw [comm, comm, hmain]
    exact .refl _
  | application bytes => exact .refl _

theorem initial_roomy {s : System} (hinitial : Initial s) : s.comm.Roomy := by
  obtain ⟨before, m_config, hinit⟩ := hinitial
  unfold MainHandler.init at hinit
  simp only at hinit
  split at hinit
  · simp at hinit
  · rename_i hconfig
    split at hinit
    · simp at hinit
    · simp only [Prod.mk.injEq, true_and] at hinit
      subst hinit
      have hchecked : check_config m_config = true := by simpa using hconfig
      have hmin : MINIMUM_TX_BUFFER_SIZE ≤ m_config.m_tx_buffer_size := by
        simp only [check_config, Bool.and_eq_true, decide_eq_true_eq] at hchecked
        exact hchecked.1.1.2
      refine (reset_same_buffers _ _).roomy ⟨hmin, rfl⟩

/-- The configuration that a run has was checked. -/
theorem Reachable.checked {s : System} (h : Reachable s) : check_config s.main.m_config = true := by
  obtain ⟨start, events, ⟨before, m_config, hinit⟩, rfl⟩ := h
  rw [run_config]
  unfold MainHandler.init at hinit
  simp only at hinit
  split at hinit
  · simp at hinit
  · rename_i hconfig
    split at hinit
    · simp at hinit
    · simp only [Prod.mk.injEq, true_and] at hinit
      subst hinit
      simpa using hconfig

theorem Reachable.roomy {s : System} (h : Reachable s)
    (hcallback : RespectsLength s.main.m_config) : s.comm.Roomy := by
  obtain ⟨start, events, hinitial, rfl⟩ := h
  rw [run_config] at hcallback
  have hstep (s : System) (e : Event)
      (h : s.main.Ready ∧ s.comm.Roomy ∧ RespectsLength s.main.m_config) :
      (System.step s e).main.Ready ∧ (System.step s e).comm.Roomy ∧
        RespectsLength (System.step s e).main.m_config := by
    obtain ⟨hready, hroomy, hcallback⟩ := h
    refine ⟨step_ready hready e, (step_same_buffers hready hroomy hcallback e).roomy hroomy, ?_⟩
    rw [step_config]
    exact hcallback
  have hstart := And.intro (initial_ready hinitial)
    (And.intro (initial_roomy hinitial) hcallback)
  exact (always_of_step hstep hstart events).last.2.1

end System

end

end scrutiny
