import Scrutiny.MainHandler.Effects
import Scrutiny.Comm.Reception
import Scrutiny.Comm.Transmission
import Scrutiny.Host

open foundation

namespace scrutiny

open protocol

namespace protocol.CommHandler

/-- Ready to send: the handler is enabled, and a transmission starts from its first byte. -/
structure Ready (comm : CommHandler) : Prop where
  enabled : comm.m_enabled = true
  tx_buffer_size_le : comm.m_tx_buffer_size ≤ MAXIMUM_TX_BUFFER_SIZE
  nothing_sent : comm.m_state ≠ .Transmitting → comm.m_nbytes_sent = 0

theorem Ready.reset_rx {comm : CommHandler} (h : Ready comm) (timebase : Timebase) :
    Ready (comm.reset_rx timebase) := by
  refine ⟨h.enabled, h.tx_buffer_size_le, fun hstate => h.nothing_sent fun htransmitting => ?_⟩
  apply hstate
  simp [CommHandler.reset_rx, htransmitting]

theorem Ready.reset_tx {comm : CommHandler} (h : Ready comm) : Ready comm.reset_tx :=
  ⟨h.enabled, h.tx_buffer_size_le, fun _ => rfl⟩

theorem ready_reset {comm : CommHandler} (henabled : comm.m_enabled = true)
    (hsize : comm.m_tx_buffer_size ≤ MAXIMUM_TX_BUFFER_SIZE) (timebase : Timebase) :
    Ready (comm.reset timebase) := by
  rw [CommHandler.reset]
  simp only [henabled, if_true]
  exact ⟨rfl, hsize, fun _ => rfl⟩

theorem reset_enabled (comm : CommHandler) (timebase : Timebase) :
    (comm.reset timebase).m_enabled = comm.m_enabled := by
  cases henabled : comm.m_enabled <;>
    simp [CommHandler.reset, henabled, CommHandler.reset_rx, CommHandler.reset_tx]

theorem ready_init {comm : CommHandler} {rx_buffer tx_buffer : ByteBuffer}
    {rx_buffer_size tx_buffer_size : uint16_t} {timebase : Timebase} {seed : uint32_t}
    (henabled : (comm.init rx_buffer rx_buffer_size tx_buffer tx_buffer_size timebase
      seed).is_enabled = true) (hsize : tx_buffer_size ≤ MAXIMUM_TX_BUFFER_SIZE) :
    Ready (comm.init rx_buffer rx_buffer_size tx_buffer tx_buffer_size timebase seed) := by
  rw [CommHandler.init, is_enabled, reset_enabled] at henabled
  exact ready_reset henabled hsize timebase

theorem reset_rx_not_transmitting {comm : CommHandler} (hstate : comm.m_state ≠ .Transmitting)
    (timebase : Timebase) : (comm.reset_rx timebase).m_state ≠ .Transmitting :=
  (reset_rx_frame comm timebase).not_transmitting hstate

theorem reset_tx_not_transmitting (comm : CommHandler) : comm.reset_tx.m_state ≠ .Transmitting := by
  simp only [CommHandler.reset_tx]
  split
  · exact State.noConfusion
  · assumption

theorem Ready.disconnect {comm : CommHandler} (h : Ready comm) (timebase : Timebase) :
    Ready (comm.disconnect timebase) := by
  refine Ready.reset_tx (Ready.reset_rx ?_ timebase)
  exact ⟨h.enabled, h.tx_buffer_size_le, h.nothing_sent⟩

theorem Ready.connect {comm : CommHandler} (h : Ready comm) (timebase : Timebase) :
    Ready (comm.connect timebase).1 := by
  unfold CommHandler.connect
  split
  · exact h
  · refine Ready.reset_rx ?_ timebase
    exact ⟨h.enabled, h.tx_buffer_size_le, h.nothing_sent⟩

theorem Ready.receive_data [Platform] {comm : CommHandler} (h : Ready comm) (timebase : Timebase)
    (data : ByteBuffer) (len : uint16_t) : Ready (comm.receive_data timebase data len) := by
  have hframe := receive_data_frame comm timebase data len
  refine ⟨hframe.enabled.trans h.enabled, ?_, fun hstate => ?_⟩
  · rw [hframe.tx_buffer_size]
    exact h.tx_buffer_size_le
  · rw [hframe.nbytes_sent]
    apply h.nothing_sent
    intro htransmitting
    apply hstate
    simp [CommHandler.receive_data, h.enabled, htransmitting]

theorem Ready.pop_data {comm : CommHandler} (h : Ready comm) (timebase : Timebase)
    (len : uint16_t) : Ready (comm.pop_data timebase len).1 := by
  rcases pop_data_cases comm timebase len with
    ⟨_, hself⟩ | ⟨hstate, sent, hsends⟩ | ⟨_, sent, hends⟩
  · rw [hself]
    exact h
  · rw [hsends]
    exact ⟨h.enabled, h.tx_buffer_size_le, fun hidle => absurd hstate hidle⟩
  · rw [hends]
    exact ⟨h.enabled, h.tx_buffer_size_le, fun _ => rfl⟩

theorem Ready.send_response {comm : CommHandler} (h : Ready comm) (response : Response) :
    Ready (comm.send_response response).1 := by
  unfold CommHandler.send_response
  simp only
  split
  · exact ⟨h.enabled, h.tx_buffer_size_le, h.nothing_sent⟩
  · split
    · exact ⟨h.enabled, h.tx_buffer_size_le, h.nothing_sent⟩
    · split
      · exact ⟨h.enabled, h.tx_buffer_size_le, fun _ => rfl⟩
      · exact ⟨h.enabled, h.tx_buffer_size_le, fun hidle => absurd rfl hidle⟩

theorem reset_state (comm : CommHandler) (timebase : Timebase) :
    (comm.reset timebase).m_state = .Idle := by
  cases henabled : comm.m_enabled <;>
    simp [CommHandler.reset, henabled, CommHandler.reset_rx, CommHandler.reset_tx]

theorem reset_not_received {comm : CommHandler} (henabled : comm.m_enabled = true)
    (timebase : Timebase) : (comm.reset timebase).m_request_received = false := by
  simp [CommHandler.reset, henabled, CommHandler.reset_rx, CommHandler.reset_tx]

/-- The session is given up when heartbeats stop. -/
theorem process_cases [Platform] (comm : CommHandler) (timebase : Timebase) :
    comm.process timebase = comm ∨ comm.process timebase = comm.reset timebase := by
  unfold CommHandler.process
  split
  · split
    · exact .inr rfl
    · exact .inl rfl
  · exact .inl rfl

theorem Ready.process [Platform] {comm : CommHandler} (h : Ready comm) (timebase : Timebase) :
    Ready (comm.process timebase) := by
  rcases process_cases comm timebase with hsame | hreset
  · rw [hsame]
    exact h
  · rw [hreset]
    exact ready_reset h.enabled h.tx_buffer_size_le timebase

end protocol.CommHandler

section

variable [Platform]

namespace MainHandler

/-- Whatever is being transmitted answers the request being processed. -/
structure Ready (main : MainHandler) : Prop where
  enabled : main.m_enabled = true
  comm : main.m_comm_handler.Ready
  processing : main.m_comm_handler.m_state = .Transmitting → main.m_processing_request = true

theorem Ready.set_datalogging {self : MainHandler} (h : Ready self) (m_datalogging : Datalogging) :
    Ready { self with m_datalogging } :=
  ⟨h.enabled, h.comm, h.processing⟩

theorem check_finished_sending_of_sent {self : MainHandler}
    (hprocessing : self.m_processing_request = true)
    (hstate : self.m_comm_handler.m_state ≠ .Transmitting) :
    self.check_finished_sending.m_comm_handler.m_state ≠ .Transmitting := by
  have hsent : (!self.m_comm_handler.transmitting) = true := by
    simpa [CommHandler.transmitting] using hstate
  rw [MainHandler.check_finished_sending, if_pos hprocessing, if_pos hsent]
  simp only
  split
  · exact CommHandler.reset_tx_not_transmitting _
  · exact CommHandler.reset_rx_not_transmitting hstate self.m_timebase

theorem Ready.check_finished_sending {self : MainHandler} (h : Ready self) :
    Ready self.check_finished_sending := by
  unfold MainHandler.check_finished_sending
  split
  · split
    · rename_i htransmitting
      have hstate : self.m_comm_handler.m_state ≠ .Transmitting := by
        simpa [CommHandler.transmitting] using htransmitting
      have hwaiting := h.comm.reset_rx self.m_timebase
      simp only
      split
      · exact ⟨h.enabled, hwaiting.disconnect self.m_timebase, fun htransmitting =>
          absurd htransmitting (CommHandler.reset_tx_not_transmitting _)⟩
      · exact ⟨h.enabled, hwaiting, fun htransmitting =>
          absurd htransmitting (CommHandler.reset_rx_not_transmitting hstate self.m_timebase)⟩
    · exact h
  · exact h

omit [Platform] in
theorem connect_state {comm : CommHandler} {request : Request}
    (haccepts : accepts_connect comm request = true) (timebase : Timebase) :
    (comm.connect timebase).1.m_state =
      if comm.m_state = .Receiving then .Idle else comm.m_state := by
  simp only [accepts_connect, CommHandler.is_connected, Bool.and_eq_true,
    Bool.not_eq_true'] at haccepts
  obtain ⟨⟨_, henabled⟩, hconnected⟩ := haccepts
  rw [CommHandler.connect, if_neg (by simp [henabled, hconnected])]
  rfl

/-- The state of the comm handler after the execution of a command. -/
theorem execute_request_state (s : System) (stack : Stack) :
    (execute_request s stack).comm.m_state =
      if accepts_connect s.comm s.comm.m_active_request ∧ s.comm.m_state = .Receiving then .Idle
      else s.comm.m_state := by
  obtain ⟨response, hcomm⟩ := execute_request_comm s stack
  cases haccepts : accepts_connect s.comm s.comm.m_active_request with
  | true =>
    rw [haccepts] at hcomm
    have hstate := connect_state haccepts s.main.m_timebase
    simp only [if_true] at hcomm
    rw [hcomm]
    simpa using hstate
  | false =>
    rw [haccepts] at hcomm
    obtain ⟨timestamp, challenge, received, hcomm⟩ := hcomm
    rw [hcomm]
    simp

theorem execute_request_tx_buffer_size (s : System) (stack : Stack) :
    (execute_request s stack).comm.m_tx_buffer_size = s.comm.m_tx_buffer_size := by
  obtain ⟨response, hcomm⟩ := execute_request_comm s stack
  split at hcomm
  · rw [hcomm]
    simp only [CommHandler.connect]
    split <;> rfl
  · obtain ⟨timestamp, challenge, received, hcomm⟩ := hcomm
    rw [hcomm]

theorem execute_request_comm_ready {s : System} (h : s.comm.Ready) (stack : Stack) :
    (execute_request s stack).comm.Ready := by
  obtain ⟨response, hcomm⟩ := execute_request_comm s stack
  split at hcomm
  · rw [hcomm]
    have hready := h.connect s.main.m_timebase
    exact ⟨hready.enabled, hready.tx_buffer_size_le, hready.nothing_sent⟩
  · obtain ⟨timestamp, challenge, received, hcomm⟩ := hcomm
    rw [hcomm]
    exact ⟨h.enabled, h.tx_buffer_size_le, h.nothing_sent⟩

/-- The execution of a command neither starts nor ends a transmission. -/
theorem execute_request_ready {s : System} (h : Ready s.main) (stack : Stack) :
    Ready (execute_request s stack).main := by
  have hmain := (execute_request_frame s stack).main
  have hstate := execute_request_state s stack
  refine ⟨?_, execute_request_comm_ready h.comm stack, fun htransmitting => ?_⟩
  · rw [hmain]
    exact h.enabled
  · have hbefore : s.comm.m_state = .Transmitting := by
      change (execute_request s stack).comm.m_state = .Transmitting at htransmitting
      rw [hstate] at htransmitting
      split at htransmitting
      · cases htransmitting
      · exact htransmitting
    rw [hmain]
    exact h.processing hbefore

/-- A response is only prepared while nothing is being transmitted. -/
theorem finish_request_ready {s : System} (h : Ready s.main)
    (hstate : s.comm.m_state ≠ .Transmitting) : Ready (finish_request s).main := by
  cases hfinal : final_response s with
  | none =>
    obtain ⟨timestamp, processing, taken, hfinish⟩ := finish_request_none hfinal
    rw [hfinish]
    exact ⟨h.enabled, h.comm, fun htransmitting => absurd htransmitting hstate⟩
  | some response =>
    rw [finish_request_some hfinal]
    refine ⟨h.enabled, CommHandler.Ready.send_response ?_ response, fun _ => rfl⟩
    exact ⟨h.comm.enabled, h.comm.tx_buffer_size_le, h.comm.nothing_sent⟩

theorem begin_process_ready {s : System} (h : Ready s.main) (timestep_100ns : timediff_t) :
    Ready (begin_process s timestep_100ns).main := by
  rw [begin_process_main]
  refine ⟨h.enabled, h.comm.process _, fun htransmitting => ?_⟩
  rcases CommHandler.process_cases s.comm (s.main.m_timebase.step timestep_100ns) with
    hsame | hreset
  · simp only [hsame] at htransmitting
    exact h.processing htransmitting
  · simp only [hreset, CommHandler.reset_state] at htransmitting
    cases htransmitting

/-- A request is only handled while nothing is being transmitted. -/
theorem not_transmitting_of_has_request {s : System} (h : Ready s.main)
    (hrequest : has_request s = true) : s.comm.m_state ≠ .Transmitting := by
  intro htransmitting
  have hprocessing := h.processing htransmitting
  simp [has_request, hprocessing] at hrequest

theorem process_ready {s : System} (h : Ready s.main) (timestep_100ns : timediff_t)
    (stack : Stack) : Ready (process s timestep_100ns stack).main := by
  have hbegin := begin_process_ready h timestep_100ns
  have hend (s : System) (h : Ready s.main) : Ready (end_process s).main := by
    rw [end_process_main]
    exact h.check_finished_sending.set_datalogging _
  rw [process, if_neg (by simp [h.enabled])]
  apply hend
  split
  · rename_i hrequest
    have hidle := not_transmitting_of_has_request hbegin hrequest
    refine finish_request_ready (execute_request_ready hbegin stack) ?_
    rw [execute_request_state]
    split
    · exact State.noConfusion
    · exact hidle
  · exact hbegin

end MainHandler

namespace System

open MainHandler

theorem step_ready {s : System} (h : s.main.Ready) (e : Event) : (step s e).main.Ready := by
  cases e with
  | receive_data data len =>
    have hframe := CommHandler.receive_data_frame s.comm s.main.m_timebase data len
    refine ⟨h.enabled, h.comm.receive_data s.main.m_timebase data len, fun htransmitting => ?_⟩
    apply h.processing
    by_contra hstate
    exact hframe.not_transmitting hstate htransmitting
  | pop_data len =>
    have hcomm := h.comm.pop_data s.main.m_timebase len
    have hready : MainHandler.Ready { s.main with
        m_comm_handler := (s.comm.pop_data s.main.m_timebase len).1 } := by
      refine ⟨h.enabled, hcomm, fun htransmitting => h.processing ?_⟩
      rcases CommHandler.pop_data_cases s.comm s.main.m_timebase len with
        ⟨_, hself⟩ | ⟨hstate, _⟩ | ⟨hstate, _⟩
      · simp only [hself] at htransmitting
        exact htransmitting
      · exact hstate
      · exact hstate
    exact hready.check_finished_sending
  | process timestep_100ns stack => exact process_ready h timestep_100ns stack
  | loop_process id timestep_100ns =>
    rw [step]
    split
    · rw [LoopHandler.process_common_main]
      exact h.set_datalogging _
    · exact h
  | application bytes => exact h

theorem initial_ready {s : System} (hinitial : Initial s) : s.main.Ready := by
  obtain ⟨before, m_config, hinit⟩ := hinitial
  unfold MainHandler.init at hinit
  simp only at hinit
  split at hinit
  · simp at hinit
  · rename_i hconfig
    split at hinit
    · simp at hinit
    · rename_i hcomm
      simp only [Prod.mk.injEq, true_and] at hinit
      subst hinit
      have hchecked : check_config m_config = true := by simpa using hconfig
      have henabled := Bool.eq_true_of_not_eq_false hcomm
      have htx : m_config.m_tx_buffer_size ≤ MAXIMUM_TX_BUFFER_SIZE := by
        simp only [check_config, Bool.and_eq_true, decide_eq_true_eq] at hchecked
        exact hchecked.1.2
      refine ⟨hchecked, CommHandler.ready_init henabled htx, fun htransmitting => ?_⟩
      simp only [CommHandler.init, CommHandler.reset_state] at htransmitting
      cases htransmitting

/-- The response that a call of `process` gives to the comm handler. -/
def answer (s : System) (timestep_100ns : timediff_t) (stack : Stack) : Option Response :=
  let s := begin_process s timestep_100ns
  if has_request s then final_response (execute_request s stack) else none

/-- A final response that fits in the transmission buffer is being transmitted after the
call of `process`, and a user can pop all of its frame. -/
def Delivers (s : System) : Event → Prop
  | .process timestep_100ns stack => ∀ response, answer s timestep_100ns stack = some response →
      response.data_length ≤ s.comm.tx_buffer_size →
        let after := step s (.process timestep_100ns stack)
        after.comm.transmitting = true ∧
          (MainHandler.pop_data after 0xFFFF).2 = CommHandler.response_frame response
  | _ => True

/-- No bytes came in since the request was accepted, unless it opens a session. -/
def Undisturbed (s : System) : Event → Prop
  | .process timestep_100ns stack => ∀ response, answer s timestep_100ns stack = some response →
      response.data_length ≤ s.comm.tx_buffer_size →
        s.comm.m_state ≠ .Receiving ∨ accepts_connect s.comm s.comm.m_active_request = true
  | _ => True

/-- The comm handler is not touched before the request is executed. -/
theorem begin_process_comm {s : System} (h : s.main.Ready) {timestep_100ns : timediff_t}
    (hrequest : has_request (begin_process s timestep_100ns) = true) :
    (begin_process s timestep_100ns).comm = s.comm := by
  have hcomm : (begin_process s timestep_100ns).comm =
      s.comm.process (s.main.m_timebase.step timestep_100ns) := by
    rw [System.comm, begin_process_main]
  rcases CommHandler.process_cases s.comm (s.main.m_timebase.step timestep_100ns) with
    hsame | hreset
  · exact hcomm.trans hsame
  · have hdropped : (s.comm.reset (s.main.m_timebase.step timestep_100ns)).request_received =
        false := CommHandler.reset_not_received h.comm.enabled _
    rw [has_request, hcomm, hreset, hdropped] at hrequest
    cases hrequest

theorem end_process_comm (s : System) :
    (end_process s).comm = (check_finished_sending s.main).m_comm_handler := by
  rw [System.comm, end_process_main]

/-- An idle comm handler takes the response and gives its frame to the user. -/
theorem finish_request_idle {s : System} (h : s.main.Ready) (hidle : s.comm.m_state = .Idle)
    {response : Response} (hfinal : final_response s = some response)
    (hfits : response.data_length ≤ s.comm.m_tx_buffer_size) :
    (end_process (finish_request s)).comm.transmitting = true ∧
      (MainHandler.pop_data (end_process (finish_request s)) 0xFFFF).2 =
        CommHandler.response_frame response := by
  let comm : CommHandler := { s.comm with m_active_response := response }
  have henabled : comm.m_enabled = true := h.comm.enabled
  have hstate : comm.m_state = .Idle := hidle
  have hfits : response.data_length ≤ comm.m_tx_buffer_size := hfits
  have hsize : comm.m_tx_buffer_size ≤ MAXIMUM_TX_BUFFER_SIZE := h.comm.tx_buffer_size_le
  have hsent : comm.m_nbytes_sent = 0 := by
    apply h.comm.nothing_sent
    change s.comm.m_state ≠ .Transmitting
    rw [hidle]
    exact State.noConfusion
  have hcomm : (finish_request s).comm = (comm.send_response response).1 := by
    rw [finish_request_some hfinal]
    rfl
  have hprocessing : (finish_request s).main.m_processing_request = true := by
    rw [finish_request_some hfinal]
    rfl
  have htransmitting : (finish_request s).comm.transmitting = true := by
    rw [hcomm, CommHandler.send_response_accepted henabled hstate hfits]
    rfl
  have hwaiting : check_finished_sending (finish_request s).main = (finish_request s).main := by
    rw [check_finished_sending, if_pos hprocessing, if_neg]
    simpa [System.comm] using htransmitting
  have hend : (end_process (finish_request s)).comm = (comm.send_response response).1 := by
    rw [end_process_comm, hwaiting]
    exact hcomm
  refine ⟨?_, ?_⟩
  · rw [hend, ← hcomm]
    exact htransmitting
  · simp only [MainHandler.pop_data]
    rw [hend]
    exact CommHandler.send_response_frame henabled hstate hfits hsize hsent _

/-- A comm handler that is receiving refuses the response, and it is lost. -/
theorem finish_request_receiving {s : System} (hreceiving : s.comm.m_state = .Receiving)
    {response : Response} (hfinal : final_response s = some response) :
    (end_process (finish_request s)).comm.transmitting = false := by
  let comm : CommHandler := { s.comm with m_active_response := response }
  have hcomm : (finish_request s).comm = (comm.send_response response).1 := by
    rw [finish_request_some hfinal]
    rfl
  have hprocessing : (finish_request s).main.m_processing_request = true := by
    rw [finish_request_some hfinal]
    rfl
  have hstate : (finish_request s).comm.m_state ≠ .Transmitting := by
    have hreceiving : comm.m_state = .Receiving := hreceiving
    have hbusy : comm.m_state ≠ .Idle := by
      rw [hreceiving]
      exact State.noConfusion
    rw [hcomm, CommHandler.send_response_busy hbusy, hreceiving]
    exact State.noConfusion
  rw [end_process_comm, CommHandler.transmitting, beq_eq_false_iff_ne]
  exact check_finished_sending_of_sent hprocessing hstate

theorem delivers_iff_undisturbed {s : System} (h : s.main.Ready) (e : Event) :
    Delivers s e ↔ Undisturbed s e := by
  cases e with
  | process timestep_100ns stack =>
    refine forall_congr' fun response => forall_congr' fun hanswer => forall_congr' fun hfits => ?_
    unfold answer at hanswer
    simp only at hanswer
    split at hanswer
    · rename_i hrequest
      have hbegin := begin_process_ready h timestep_100ns
      have hexecuted := execute_request_ready hbegin stack
      have hcomm := begin_process_comm h hrequest
      have hidle := not_transmitting_of_has_request hbegin hrequest
      have hstate := execute_request_state (begin_process s timestep_100ns) stack
      rw [hcomm] at hidle hstate
      have hprocess : step s (.process timestep_100ns stack) =
          end_process (finish_request (execute_request (begin_process s timestep_100ns) stack)) := by
        rw [step, process, if_neg (by simp [h.enabled])]
        simp only [hrequest, if_true]
      have hfits : response.data_length ≤
          (execute_request (begin_process s timestep_100ns) stack).comm.m_tx_buffer_size := by
        rw [execute_request_tx_buffer_size, hcomm]
        exact hfits
      simp only [hprocess]
      by_cases hfree : s.comm.m_state ≠ .Receiving ∨
          accepts_connect s.comm s.comm.m_active_request = true
      · have hready : (execute_request (begin_process s timestep_100ns) stack).comm.m_state =
            .Idle := by
          rw [hstate]
          split
          · rfl
          · cases hcase : s.comm.m_state with
            | Idle => rfl
            | Receiving => simp_all
            | Transmitting => exact absurd hcase hidle
        exact iff_of_true (finish_request_idle hexecuted hready hanswer hfits) hfree
      · obtain ⟨hreceiving, hrefused⟩ := not_or.mp hfree
        have hlost : (execute_request (begin_process s timestep_100ns) stack).comm.m_state =
            .Receiving := by
          rw [hstate, if_neg fun haccepts => hrefused haccepts.1]
          exact not_not.mp hreceiving
        have hfalse := finish_request_receiving hlost hanswer
        refine iff_of_false (fun hdelivered => ?_) hfree
        rw [hfalse] at hdelivered
        exact Bool.noConfusion hdelivered.1
    · cases hanswer
  | receive_data => exact Iff.rfl
  | pop_data => exact Iff.rfl
  | loop_process => exact Iff.rfl
  | application => exact Iff.rfl

/-- In every run of an initialized handler, the responses are delivered just when no bytes
come in between the acceptance of a request and its processing. -/
theorem responses_delivered_iff {s : System} (hinitial : Initial s) (events : List Event) :
    Along step Delivers s events ↔ Along step Undisturbed s events := by
  have hstep : ∀ s e, s.main.Ready → Undisturbed s e → (step s e).main.Ready :=
    fun _ e h _ => step_ready h e
  have hexact : ∀ s e, s.main.Ready → (Delivers s e ↔ Undisturbed s e) :=
    fun _ e h => delivers_iff_undisturbed h e
  exact along_iff_along hstep hexact (initial_ready hinitial)

end System

end

section

attribute [local instance] host.platform

theorem connect_delivered : Along System.step System.Delivers host.start host.connect :=
  (System.responses_delivered_iff host.initial_start host.connect).mpr
    ⟨trivial, fun _ _ _ => .inl (by decide +kernel), trivial, trivial⟩

/-- One byte comes in after a request for the parameters and before its processing. -/
def byte_after_request : List Event :=
  host.connect ++ [host.receive (host.frame 2 3 []), host.receive [0x01]]

theorem response_lost :
    ¬ ∀ s events, System.Initial s → Along System.step System.Delivers s events := by
  intro hdelivers
  have hrun := hdelivers host.start (byte_after_request ++ [.process 0 host.stack])
    host.initial_start
  obtain ⟨hlast, _⟩ := (Along.append.mp hrun).2
  have hanswer : ((run System.step host.start byte_after_request).answer 0 host.stack).any
      (fun response => decide (response.data_length ≤
        (run System.step host.start byte_after_request).comm.tx_buffer_size)) = true := by
    decide +kernel
  obtain ⟨response, hsome, hfits⟩ := (Option.any_eq_true _ _).mp hanswer
  obtain ⟨htransmitting, _⟩ := hlast response hsome (by simpa using hfits)
  revert htransmitting
  decide +kernel

end

end scrutiny
