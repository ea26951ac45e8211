import Scrutiny.Comm.Delivery
import Scrutiny.Foundation.Past

open foundation

namespace scrutiny

open protocol

namespace protocol

/-- The requests that are let in without a session: a discovery with its magic, and a
connection. -/
def Request.Opening (request : Request) : Prop :=
  CommandId.cast request.command_id = some .CommControl ∧
    (CommControl.Subfunction.cast request.subfunction_id = some .Discover ∧
        CommControl.DISCOVER_MAGIC <+: request.payload ∨
      CommControl.Subfunction.cast request.subfunction_id = some .Connect)

namespace CommHandler

theorem received_discover_request_opening {comm : CommHandler}
    (hdiscover : comm.received_discover_request = true) : comm.m_active_request.Opening := by
  unfold received_discover_request at hdiscover
  split at hdiscover
  · cases hdiscover
  · rename_i hcommand
    split at hdiscover
    · cases hdiscover
    · rename_i hsubfunction
      split at hdiscover
      · cases hdiscover
      · rename_i hlength
        have hmagic := eq_of_beq hdiscover
        refine ⟨not_not.mp hcommand, .inl ⟨not_not.mp hsubfunction, ?_⟩⟩
        refine ⟨comm.m_active_request.data.slice CommControl.DISCOVER_MAGIC.length
          (comm.m_active_request.data_length.toNat - CommControl.DISCOVER_MAGIC.length), ?_⟩
        have hsplit := comm.m_active_request.data.slice_add 0 CommControl.DISCOVER_MAGIC.length
          (comm.m_active_request.data_length.toNat - CommControl.DISCOVER_MAGIC.length)
        rw [Nat.add_sub_cancel' (Nat.le_of_not_lt hlength), Nat.zero_add, hmagic] at hsplit
        exact hsplit.symm

theorem received_connect_request_opening {comm : CommHandler}
    (hconnect : comm.received_connect_request = true) : comm.m_active_request.Opening := by
  unfold received_connect_request at hconnect
  split at hconnect
  · cases hconnect
  · rename_i hcommand
    split at hconnect
    · cases hconnect
    · rename_i hsubfunction
      exact ⟨not_not.mp hcommand, .inr (not_not.mp hsubfunction)⟩

/-- A request that waits to be processed was let in by the gate. -/
def Admitted (comm : CommHandler) : Prop :=
  comm.request_received = true → comm.is_connected = true ∨ comm.m_active_request.Opening

theorem process_active_request_admitted (self : CommHandler) (timebase : Timebase) :
    Admitted (self.process_active_request timebase) := by
  unfold process_active_request
  generalize hgate : (if self.m_session_active = false then
    self.received_discover_request || self.received_connect_request else true) = must_process
  cases must_process with
  | true =>
    intro _
    by_cases hsession : self.m_session_active = false
    · rw [if_pos hsession] at hgate
      rcases Bool.or_eq_true_iff.mp hgate with hdiscover | hconnect
      · exact .inr (received_discover_request_opening hdiscover)
      · exact .inr (received_connect_request_opening hconnect)
    · exact .inl (Bool.eq_true_of_not_eq_false hsession)
  | false =>
    intro hreceived
    cases hreceived

/-- A turn of the loop of `receive_data` lets in no other requests. -/
theorem receive_step_admitted {self : CommHandler} (hwaiting : self.m_request_received = false)
    (timebase : Timebase) (data : ByteBuffer) (len i : Nat) :
    Admitted (self.receive_step timebase data len i).1 := by
  have hnone {comm : CommHandler} (hsame : comm.m_request_received = self.m_request_received) :
      Admitted comm := by
    intro hreceived
    cases (hreceived.symm.trans hsame).trans hwaiting
  cases hstate : self.m_rx_state with
  | WaitForCRC =>
    simp only [receive_step, hstate]
    split
    · split
      · exact process_active_request_admitted _ timebase
      · intro hreceived
        cases hreceived
    · exact hnone rfl
  | WaitForCommand =>
    simp only [receive_step, hstate]
    split <;> exact hnone rfl
  | WaitForSubfunction =>
    simp only [receive_step, hstate]
    exact hnone rfl
  | WaitForLength =>
    simp only [receive_step, hstate]
    repeat' split
    all_goals exact hnone rfl
  | WaitForData =>
    simp only [receive_step, hstate]
    repeat' split
    all_goals exact hnone rfl
  | WaitForProcess =>
    simp only [receive_step, hstate]
    exact hnone rfl
  | Error =>
    simp only [receive_step, hstate]
    exact hnone rfl

theorem receive_loop_admitted {self : CommHandler} (h : Admitted self) (timebase : Timebase)
    (data : ByteBuffer) (len fuel i : Nat) :
    Admitted (receive_loop timebase data len fuel self i) := by
  induction fuel generalizing self i with
  | zero => exact h
  | succ fuel ih =>
    rw [receive_loop]
    split
    · rename_i hkeeps
      have hwaiting : self.m_request_received = false := by
        simp only [keeps_receiving, Bool.and_eq_true, Bool.not_eq_true'] at hkeeps
        exact hkeeps.1.2
      exact ih (receive_step_admitted hwaiting timebase data len i) _
    · exact h

/-- The session and the request that waits stay as they are, or the request is dropped. -/
inductive KeepsSession (before after : CommHandler) : Prop
  | dropped (hreceived : after.m_request_received = false)
  | kept (hreceived : after.m_request_received = before.m_request_received)
      (hrequest : after.m_active_request = before.m_active_request)
      (hactive : after.m_session_active = before.m_session_active)
      (hid : after.m_session_id = before.m_session_id)

namespace KeepsSession

variable {first second third : CommHandler}

theorem refl (comm : CommHandler) : KeepsSession comm comm := .kept rfl rfl rfl rfl

theorem trans (h : KeepsSession first second) (h' : KeepsSession second third) :
    KeepsSession first third := by
  cases h' with
  | dropped hreceived => exact .dropped hreceived
  | kept hreceived hrequest hactive hid =>
    cases h with
    | dropped hreceived' => exact .dropped (hreceived.trans hreceived')
    | kept hreceived' hrequest' hactive' hid' =>
      exact .kept (hreceived.trans hreceived') (hrequest.trans hrequest')
        (hactive.trans hactive') (hid.trans hid')

/-- What is not the reception of bytes lets no request in. -/
theorem admitted (h : KeepsSession first second) (hadmitted : Admitted first) :
    Admitted second := by
  intro hlater
  cases h with
  | dropped hreceived => cases hlater.symm.trans hreceived
  | kept hreceived hrequest hactive hid =>
    rw [is_connected, hactive, hrequest]
    exact hadmitted (hreceived.symm.trans hlater)

/-- A request is dropped when its session ends. -/
theorem session (h : KeepsSession first second) (hlater : second.m_request_received = true) :
    first.m_request_received = true ∧ second.m_session_active = first.m_session_active ∧
      second.m_session_id = first.m_session_id := by
  cases h with
  | dropped hreceived => cases hlater.symm.trans hreceived
  | kept hreceived hrequest hactive hid => exact ⟨hreceived.symm.trans hlater, hactive, hid⟩

end KeepsSession

theorem pop_data_keeps_session (self : CommHandler) (timebase : Timebase) (len : uint16_t) :
    KeepsSession self (self.pop_data timebase len).1 := by
  rcases pop_data_cases self timebase len with ⟨_, hself⟩ | ⟨_, sent, hsends⟩ | ⟨_, sent, hends⟩
  · rw [hself]
    exact .refl self
  · rw [hsends]
    exact .kept rfl rfl rfl rfl
  · rw [hends]
    exact .dropped rfl

theorem send_response_keeps_session (self : CommHandler) (response : Response) :
    KeepsSession self (self.send_response response).1 := by
  unfold send_response
  simp only
  repeat' split
  all_goals exact .kept rfl rfl rfl rfl

theorem connect_keeps_session (self : CommHandler) (timebase : Timebase) :
    KeepsSession self (self.connect timebase).1 := by
  unfold connect
  split
  · exact .refl self
  · exact .dropped rfl

theorem reset_session_inactive (self : CommHandler) (timebase : Timebase) :
    (self.reset timebase).m_session_active = false := by
  unfold reset
  simp only
  split <;> rfl

variable [Platform]

theorem process_keeps_session {self : CommHandler} (henabled : self.m_enabled = true)
    (timebase : Timebase) : KeepsSession self (self.process timebase) := by
  rcases process_cases self timebase with hsame | hreset
  · rw [hsame]
    exact .refl self
  · rw [hreset]
    exact .dropped (reset_not_received henabled timebase)

theorem receive_data_admitted {self : CommHandler} (h : Admitted self) (timebase : Timebase)
    (data : ByteBuffer) (len : uint16_t) : Admitted (self.receive_data timebase data len) := by
  have hbegin : Admitted (self.begin_reception timebase) := by
    unfold begin_reception
    simp only
    split
    · intro hreceived
      cases hreceived
    · exact h
  unfold receive_data
  split
  · exact h
  · split
    · exact h
    · refine receive_loop_admitted ?_ timebase data len.toNat _ 0
      split
      · exact hbegin
      · exact h

end CommHandler

end protocol

open protocol.CommHandler

section

variable [Platform]

namespace MainHandler

theorem check_finished_sending_keeps_session (self : MainHandler) :
    KeepsSession self.m_comm_handler self.check_finished_sending.m_comm_handler := by
  unfold check_finished_sending
  split
  · split
    · simp only
      split
      · exact .dropped rfl
      · exact .dropped rfl
    · exact .refl _
  · exact .refl _

theorem execute_request_keeps_session (s : System) (stack : Stack) :
    KeepsSession s.comm (execute_request s stack).comm := by
  obtain ⟨response, hcomm⟩ := execute_request_comm s stack
  split at hcomm
  · rw [hcomm]
    exact (connect_keeps_session s.comm s.main.m_timebase).trans (.kept rfl rfl rfl rfl)
  · obtain ⟨timestamp, challenge, received, hcomm⟩ := hcomm
    rw [hcomm]
    exact .kept rfl rfl rfl rfl

theorem finish_request_keeps_session (s : System) :
    KeepsSession s.comm (finish_request s).comm := by
  cases hfinal : final_response s with
  | none =>
    obtain ⟨timestamp, processing, taken, hfinish⟩ := finish_request_none hfinal
    rw [hfinish]
    exact .refl s.comm
  | some response =>
    have hsent := send_response_keeps_session
      { s.comm with m_active_response := response } response
    rw [finish_request_some hfinal]
    refine KeepsSession.trans ?_ hsent
    exact .kept rfl rfl rfl rfl

theorem serve_request_keeps_session (s : System) (stack : Stack) :
    KeepsSession s.comm (serve_request s stack).comm := by
  unfold serve_request
  split
  · exact (execute_request_keeps_session s stack).trans (finish_request_keeps_session _)
  · exact .refl s.comm

theorem begin_process_keeps_session {s : System} (h : Ready s.main)
    (timestep_100ns : timediff_t) :
    KeepsSession s.comm (begin_process s timestep_100ns).comm := by
  rw [System.comm, System.comm, begin_process_main]
  exact process_keeps_session h.comm.enabled _

theorem end_process_keeps_session (s : System) : KeepsSession s.comm (end_process s).comm := by
  rw [System.end_process_comm]
  exact check_finished_sending_keeps_session s.main

theorem process_keeps_session {s : System} (h : Ready s.main) (timestep_100ns : timediff_t)
    (stack : Stack) : KeepsSession s.comm (process s timestep_100ns stack).comm := by
  rw [process_eq h.enabled]
  exact (begin_process_keeps_session h timestep_100ns).trans
    ((serve_request_keeps_session _ stack).trans (end_process_keeps_session _))

end MainHandler

namespace System

open MainHandler

/-- Only the reception of bytes can let a request in. -/
theorem step_keeps_session {s : System} (h : s.main.Ready) {e : Event}
    (hreceive : ∀ data len, e ≠ .receive_data data len) :
    KeepsSession s.comm (step s e).comm := by
  cases e with
  | receive_data data len => exact absurd rfl (hreceive data len)
  | pop_data len =>
    have hchecked := check_finished_sending_keeps_session
      (s.set_comm (s.comm.pop_data s.main.m_timebase len).1).main
    exact (pop_data_keeps_session s.comm s.main.m_timebase len).trans hchecked
  | process timestep_100ns stack => exact process_keeps_session h timestep_100ns stack
  | loop_process id timestep_100ns =>
    rw [step]
    split
    · rw [comm, comm, LoopHandler.process_common_main]
      exact .refl s.comm
    · exact .refl s.comm
  | application bytes => exact .refl s.comm

/-- Nothing is going on in an initialized handler. -/
structure AtStart (main : MainHandler) : Prop where
  request_received : main.m_comm_handler.m_request_received = false
  session_active : main.m_comm_handler.m_session_active = false
  processing_request : main.m_processing_request = false
  disconnect_pending : main.m_disconnect_pending = false
  process_again_timestamp_taken : main.m_process_again_timestamp_taken = false

theorem initial_at_start {s : System} (hinitial : Initial s) : AtStart s.main := by
  have hready := initial_ready hinitial
  obtain ⟨before, m_config, hinit⟩ := hinitial
  unfold MainHandler.init at hinit
  simp only at hinit
  split at hinit
  · simp at hinit
  · split at hinit
    · simp at hinit
    · rename_i henabled
      simp only [Prod.mk.injEq, true_and] at hinit
      subst hinit
      have henabled := Bool.eq_true_of_not_eq_false henabled
      rw [CommHandler.init, is_enabled, reset_enabled] at henabled
      refine ⟨reset_not_received henabled _, ?_, rfl, rfl, rfl⟩
      exact reset_session_inactive _ _

/-- The gate has not been passed by any other request. -/
structure Gated (s : System) : Prop where
  ready : s.main.Ready
  admitted : Admitted s.comm

theorem Gated.step {s : System} (h : Gated s) (e : Event) : Gated (step s e) := by
  refine ⟨step_ready h.ready e, ?_⟩
  cases e with
  | receive_data data len => exact receive_data_admitted h.admitted s.main.m_timebase data len
  | _ => exact (step_keeps_session h.ready (by simp)).admitted h.admitted

theorem initial_gated {s : System} (hinitial : Initial s) : Gated s := by
  refine ⟨initial_ready hinitial, fun hreceived => ?_⟩
  cases hreceived.symm.trans (initial_at_start hinitial).request_received

theorem Reachable.gated {s : System} (h : Reachable s) : Gated s := by
  obtain ⟨start, events, hinitial, rfl⟩ := h
  exact (always_of_step (fun _ e h => h.step e) (initial_gated hinitial) events).last

/-- The session that a request waits in, if there is one. -/
def session (s : System) : Option uint32_t :=
  if s.comm.is_connected then some s.comm.get_session_id else none

/-- A step that leaves a request waiting leaves its session as it is. -/
theorem step_session {s : System} (h : s.main.Ready) {e : Event}
    (hlater : (step s e).comm.request_received = true) : (step s e).session = s.session := by
  cases e with
  | receive_data data len =>
    obtain ⟨_, _, _, _, _, _, _, _, hcomm⟩ :=
      receive_data_receives s.comm s.main.m_timebase data len
    have hstep : (step s (.receive_data data len)).comm =
        s.comm.receive_data s.main.m_timebase data len := rfl
    rw [session, hstep, hcomm]
    rfl
  | _ =>
    obtain ⟨_, hactive, hid⟩ := (step_keeps_session h (by simp)).session hlater
    rw [session, session, is_connected, is_connected, get_session_id, get_session_id, hactive, hid]

theorem run_ready {s : System} (h : s.main.Ready) (events : List Event) :
    (run step s events).main.Ready := by
  have halways : Always step (fun s => s.main.Ready) s events := by
    apply always_of_step
    · exact fun _ e h => step_ready h e
    · exact h
  exact halways.last

/-- A request that keeps waiting waits in the same session all along. -/
theorem waiting_session {s : System} (h : s.main.Ready) {events : List Event}
    (hwaiting : Always step (fun s => s.comm.request_received = true) s events) :
    Always step (fun later => later.session = s.session) s events := by
  induction events generalizing s with
  | nil => exact rfl
  | cons e events ih =>
    have hnext := step_session h hwaiting.2.head
    have hrest := ih (step_ready h e) hwaiting.2
    rw [hnext] at hrest
    exact ⟨rfl, hrest⟩

/-- A request is executed in the session it waits in. -/
theorem executed_session {s : System} (h : s.main.Ready) {timestep_100ns : timediff_t}
    (hrequest : has_request (begin_process s timestep_100ns) = true) :
    s.comm.request_received = true ∧ (begin_process s timestep_100ns).session = s.session := by
  have hcomm := begin_process_comm h hrequest
  refine ⟨?_, ?_⟩
  · rw [has_request, hcomm] at hrequest
    exact (Bool.and_eq_true_iff.mp hrequest).1
  · rw [session, session, hcomm]

/-- The gate: a request that waits, or is executed, does so in a session or opens one. It
never waits, nor is it executed, in another session than the one it was accepted in. -/
theorem session_gate {s : System} (h : Reachable s) :
    (s.comm.request_received = true →
        s.session.isSome = true ∨ s.comm.m_active_request.Opening) ∧
      (∀ timestep_100ns, has_request (begin_process s timestep_100ns) = true →
        (begin_process s timestep_100ns).session.isSome = true ∨
          (begin_process s timestep_100ns).comm.m_active_request.Opening) ∧
      ∀ events, Always step (fun s => s.comm.request_received = true) s events →
        (run step s events).session = s.session ∧
          ∀ timestep_100ns, has_request (begin_process (run step s events) timestep_100ns) = true →
            (begin_process (run step s events) timestep_100ns).session = s.session := by
  have hgated := h.gated
  have hwaits : s.comm.request_received = true →
      s.session.isSome = true ∨ s.comm.m_active_request.Opening := by
    intro hreceived
    refine (hgated.admitted hreceived).imp_left fun hconnected => ?_
    rw [session, if_pos hconnected]
    rfl
  refine ⟨hwaits, fun timestep_100ns hrequest => ?_, fun events hwaiting => ?_⟩
  · obtain ⟨hreceived, hsession⟩ := executed_session hgated.ready hrequest
    rw [hsession, begin_process_comm hgated.ready hrequest]
    exact hwaits hreceived
  · have hsame := (waiting_session hgated.ready hwaiting).last
    refine ⟨hsame, fun timestep_100ns hrequest => ?_⟩
    exact (executed_session (run_ready hgated.ready events) hrequest).2.trans hsame

end System

end

section

attribute [local instance] host.platform

/-- A connection waits, and is executed, without a session. -/
theorem session_gate_of_connect :
    let s := run System.step host.start [host.receive (host.frame 2 4 CommControl.CONNECT_MAGIC)]
    s.session.isSome = true ∨ s.comm.m_active_request.Opening :=
  (System.session_gate (host.reachable_run _)).1 (by decide +kernel)

end

end scrutiny
