import Scrutiny.Session.Once

open foundation

namespace scrutiny

open protocol protocol.CommHandler

namespace protocol.CommHandler

/-- The session stays as it is. -/
structure SameSession (before after : CommHandler) : Prop where
  active : after.m_session_active = before.m_session_active
  id : after.m_session_id = before.m_session_id

namespace SameSession

variable {first second third : CommHandler}

theorem refl (comm : CommHandler) : SameSession comm comm := ⟨rfl, rfl⟩

theorem trans (h : SameSession first second) (h' : SameSession second third) :
    SameSession first third := ⟨h'.active.trans h.active, h'.id.trans h.id⟩

end SameSession

theorem pop_data_same_session (self : CommHandler) (timebase : Timebase) (len : uint16_t) :
    SameSession self (self.pop_data timebase len).1 := by
  rcases pop_data_cases self timebase len with ⟨_, hself⟩ | ⟨_, sent, hsends⟩ | ⟨_, sent, hends⟩
  · rw [hself]
    exact .refl self
  · rw [hsends]
    exact ⟨rfl, rfl⟩
  · rw [hends]
    exact ⟨rfl, rfl⟩

theorem send_response_same_session (self : CommHandler) (response : Response) :
    SameSession self (self.send_response response).1 := by
  unfold send_response
  simp only
  repeat' split
  all_goals exact ⟨rfl, rfl⟩

theorem receive_data_same_session [Platform] (self : CommHandler) (timebase : Timebase)
    (data : ByteBuffer) (len : uint16_t) :
    SameSession self (self.receive_data timebase data len) := by
  obtain ⟨_, _, _, _, _, _, _, _, hcomm⟩ := receive_data_receives self timebase data len
  rw [hcomm]
  exact ⟨rfl, rfl⟩

end protocol.CommHandler

section

variable [Platform]

namespace MainHandler

/-- What is left pending between two calls is the end of a transmission. -/
structure Settled (main : MainHandler) : Prop where
  transmitting : main.m_processing_request = true → main.m_comm_handler.m_state = .Transmitting
  processing : main.m_disconnect_pending = true → main.m_processing_request = true

/-- The end of the session, if it is time for it. -/
inductive Finishes (before after : MainHandler) : Prop
  | kept (hsession : SameSession before.m_comm_handler after.m_comm_handler)
      (hpending : after.m_disconnect_pending = before.m_disconnect_pending)
  | disconnected (hpending : before.m_disconnect_pending = true)
      (hsent : after.m_comm_handler.m_state ≠ .Transmitting)
      (hinactive : after.m_comm_handler.m_session_active = false)
      (hdone : after.m_disconnect_pending = false)

theorem check_finished_sending_settled {self : MainHandler}
    (hprocessing : self.m_disconnect_pending = true → self.m_processing_request = true) :
    Settled self.check_finished_sending := by
  unfold check_finished_sending
  split
  · split
    · simp only
      split
      · exact ⟨fun h => Bool.noConfusion h, fun h => Bool.noConfusion h⟩
      · rename_i hpending
        exact ⟨fun h => Bool.noConfusion h, fun h => absurd h hpending⟩
    · rename_i htransmitting
      refine ⟨fun _ => ?_, hprocessing⟩
      simpa [CommHandler.transmitting] using htransmitting
  · rename_i hidle
    exact ⟨fun h => absurd h hidle, hprocessing⟩

theorem check_finished_sending_finishes {self : MainHandler} :
    Finishes self self.check_finished_sending := by
  unfold check_finished_sending
  split
  · split
    · simp only
      split
      · rename_i hpending
        exact .disconnected hpending (CommHandler.reset_tx_not_transmitting _) rfl rfl
      · exact .kept ⟨rfl, rfl⟩ rfl
    · exact .kept (.refl _) rfl
  · exact .kept (.refl _) rfl

/-- What a request that closes the session needs. -/
theorem comm_disconnect_pending {self : MainHandler} {request : Request}
    (hpending : (self.comm_disconnect request).2 = true)
    (hidle : self.m_disconnect_pending = false) :
    CodecV1_0.decode_request_comm_disconnect request = some self.m_comm_handler.get_session_id ∧
      self.m_comm_handler.is_connected = true ∧ (self.comm_disconnect request).1 = .OK := by
  unfold comm_disconnect at hpending ⊢
  cases hdecode : CodecV1_0.decode_request_comm_disconnect request with
  | none =>
    rw [hdecode] at hpending
    cases hidle.symm.trans hpending
  | some session_id =>
    rw [hdecode] at hpending
    simp only at hpending ⊢
    split at hpending
    · rename_i hconnected
      split at hpending
      · rename_i hid
        rw [if_pos hconnected, if_pos hid, hid]
        exact ⟨rfl, hconnected, rfl⟩
      · cases hidle.symm.trans hpending
    · cases hidle.symm.trans hpending

/-- The code of a connection request that comes in a session. -/
theorem comm_connect_busy {self : MainHandler} (hconnected : self.m_comm_handler.is_connected = true)
    (request : Request) (response : Response) :
    (self.comm_connect request response).1.1 =
      if (CodecV1_0.decode_request_comm_connect request).isSome then .Busy else .InvalidRequest := by
  unfold comm_connect
  cases hdecode : CodecV1_0.decode_request_comm_connect request with
  | none => rfl
  | some magic =>
    simp only [hconnected, if_true, Option.isSome_some]

/-- The request that is executed asks for something about the session. -/
def Asks (comm : CommHandler) (subfunction : CommControl.Subfunction) : Prop :=
  CommandId.cast comm.m_active_request.command_id = some .CommControl ∧
    CommControl.Subfunction.cast comm.m_active_request.subfunction_id = some subfunction

instance (comm : CommHandler) (subfunction : CommControl.Subfunction) :
    Decidable (Asks comm subfunction) :=
  inferInstanceAs (Decidable (_ ∧ _))

/-- The response object before a command writes in it. -/
def blank_response (s : System) : Response :=
  { s.comm.prepare_response.m_active_response.reset with
    command_id := s.comm.m_active_request.command_id
    subfunction_id := s.comm.m_active_request.subfunction_id }

theorem executed_code_eq (s : System) (stack : Stack) :
    executed_code s stack = some
      (process_command (prepared s) stack s.comm.m_active_request (blank_response s)).1.1 :=
  ResponseCode.cast_code _

theorem execute_request_pending (s : System) (stack : Stack) :
    (execute_request s stack).main.m_disconnect_pending =
      (process_command (prepared s) stack s.comm.m_active_request
        (blank_response s)).2.main.m_disconnect_pending := rfl

/-- Only a request to disconnect makes the end of the session pending. -/
theorem process_comm_control_disconnects {self : MainHandler} {request : Request}
    {response : Response}
    (hpending : (self.process_comm_control request response).2.m_disconnect_pending = true)
    (hidle : self.m_disconnect_pending = false) :
    CommControl.Subfunction.cast request.subfunction_id = some .Disconnect ∧
      CodecV1_0.decode_request_comm_disconnect request =
        some self.m_comm_handler.get_session_id ∧
      self.m_comm_handler.is_connected = true ∧
      (self.process_comm_control request response).1.1 = .OK := by
  cases hsubfunction : CommControl.Subfunction.cast request.subfunction_id with
  | none =>
    simp only [process_comm_control, hsubfunction] at hpending
    cases hidle.symm.trans hpending
  | some subfunction =>
    cases subfunction with
    | Disconnect =>
      simp only [process_comm_control, hsubfunction] at hpending ⊢
      exact ⟨trivial, comm_disconnect_pending hpending hidle⟩
    | _ =>
      simp only [process_comm_control, hsubfunction] at hpending
      cases hidle.symm.trans hpending

theorem execute_request_disconnects {s : System} {stack : Stack}
    (hpending : (execute_request s stack).main.m_disconnect_pending = true)
    (hidle : s.main.m_disconnect_pending = false) :
    Asks s.comm .Disconnect ∧
      CodecV1_0.decode_request_comm_disconnect s.comm.m_active_request =
        some s.comm.get_session_id ∧
      s.comm.is_connected = true ∧ executed_code s stack = some .OK := by
  rw [execute_request_pending] at hpending
  have hidle : (prepared s).main.m_disconnect_pending = false := hidle
  rw [executed_code_eq]
  by_cases hcommand : CommandId.cast s.comm.m_active_request.command_id = some .CommControl
  · simp only [process_command, hcommand] at hpending ⊢
    obtain ⟨hsubfunction, hdecode, hconnected, hcode⟩ :=
      process_comm_control_disconnects hpending hidle
    exact ⟨⟨hcommand, hsubfunction⟩, hdecode, hconnected, congrArg some hcode⟩
  · have hsame : (process_command (prepared s) stack s.comm.m_active_request
        (blank_response s)).2.main.m_disconnect_pending = false := by
      unfold process_command
      split
      · exact hidle
      · rename_i hcast
        exact absurd hcast hcommand
      all_goals exact hidle
    cases hsame.symm.trans hpending

/-- A connection request in a session is refused. -/
theorem executed_code_connect {s : System} (hconnect : Asks s.comm .Connect)
    (hconnected : s.comm.is_connected = true) (stack : Stack) :
    executed_code s stack = some
      (if (CodecV1_0.decode_request_comm_connect s.comm.m_active_request).isSome then .Busy
        else .InvalidRequest) := by
  have hconnected : (prepared s).main.m_comm_handler.is_connected = true := hconnected
  rw [executed_code_eq]
  simp only [process_command, hconnect.1, process_comm_control, hconnect.2,
    comm_connect_busy hconnected]

omit [Platform] in
/-- The codec looks at nothing but the length. -/
theorem decode_connect_isSome (request : Request) :
    (CodecV1_0.decode_request_comm_connect request).isSome = true ↔
      request.payload.length = CommControl.CONNECT_MAGIC.length := by
  have hmagic : CommControl.CONNECT_MAGIC.length = (4#16).toNat := rfl
  rw [Request.payload, Buffer.length_slice, hmagic, BitVec.toNat_inj,
    CodecV1_0.decode_request_comm_connect]
  split
  · rename_i hlength
    exact iff_of_false (by simp) hlength
  · rename_i hlength
    exact iff_of_true rfl (not_not.mp hlength)

theorem finish_request_pending (s : System) :
    (finish_request s).main.m_disconnect_pending = s.main.m_disconnect_pending := by
  cases hfinal : final_response s with
  | none =>
    obtain ⟨timestamp, processing, taken, hfinish⟩ := finish_request_none hfinal
    rw [hfinish]
  | some response =>
    rw [finish_request_some hfinal]
    rfl

theorem finish_request_same_session (s : System) :
    SameSession s.comm (finish_request s).comm := by
  cases hfinal : final_response s with
  | none =>
    obtain ⟨timestamp, processing, taken, hfinish⟩ := finish_request_none hfinal
    rw [hfinish]
    exact .refl s.comm
  | some response =>
    have hsent := send_response_same_session
      { s.comm with m_active_response := response } response
    rw [finish_request_some hfinal]
    refine SameSession.trans ?_ hsent
    exact ⟨rfl, rfl⟩

/-- The execution of a request leaves the session as it is, or opens one. -/
theorem execute_request_same_session {s : System} (stack : Stack)
    (hrefused : accepts_connect s.comm s.comm.m_active_request = false) :
    SameSession s.comm (execute_request s stack).comm := by
  obtain ⟨response, hcomm⟩ := execute_request_comm s stack
  rw [hrefused] at hcomm
  obtain ⟨timestamp, challenge, received, hcomm⟩ := hcomm
  rw [hcomm]
  exact ⟨rfl, rfl⟩

theorem execute_request_opens {s : System} (stack : Stack)
    (haccepts : accepts_connect s.comm s.comm.m_active_request = true) :
    (execute_request s stack).comm.m_session_active = true := by
  obtain ⟨response, hcomm⟩ := execute_request_comm s stack
  rw [haccepts] at hcomm
  simp only [if_true] at hcomm
  simp only [accepts_connect, CommHandler.is_connected, Bool.and_eq_true,
    Bool.not_eq_true'] at haccepts
  obtain ⟨⟨_, henabled⟩, hconnected⟩ := haccepts
  rw [hcomm, CommHandler.connect, if_neg (by simp [henabled, hconnected])]
  rfl

omit [Platform] in
theorem accepts_connect_asks {comm : CommHandler}
    (haccepts : accepts_connect comm comm.m_active_request = true) : Asks comm .Connect := by
  simp only [accepts_connect, Bool.and_eq_true, decide_eq_true_eq] at haccepts
  exact haccepts.1.1.1

end MainHandler

namespace System

open MainHandler

theorem session_of_same {s s' : System} (h : SameSession s.comm s'.comm) :
    s'.session = s.session := by
  rw [session, session, is_connected, is_connected, get_session_id, get_session_id, h.active, h.id]

theorem session_eq_none {s : System} : s.session = none ↔ s.comm.is_connected = false := by
  rw [session]
  cases s.comm.is_connected <;> simp

theorem session_eq_some {s : System} {id : uint32_t} :
    s.session = some id ↔ s.comm.is_connected = true ∧ s.comm.get_session_id = id := by
  rw [session]
  cases s.comm.is_connected <;> simp

/-- A call of `process` that finds a connection request waiting, and no session. -/
def Opens (s : System) : Event → Prop
  | .process _ _ => has_request s = true ∧ accepts_connect s.comm s.comm.m_active_request = true
  | _ => False

instance (s : System) (e : Event) : Decidable (Opens s e) :=
  match e with
  | .process _ _ => inferInstanceAs (Decidable (has_request s = true ∧
    accepts_connect s.comm s.comm.m_active_request = true))
  | .receive_data _ _ | .pop_data _ | .loop_process _ _ | .application _ =>
    inferInstanceAs (Decidable False)

/-- The heartbeats stopped for too long. -/
def Expires (s : System) : Event → Prop
  | .process timestep_100ns _ => s.comm.is_connected = true ∧
      (s.main.m_timebase.step timestep_100ns).has_expired s.comm.m_heartbeat_timestamp
        (Platform.comm_heartbeat_timeout_us * 10) = true
  | _ => False

instance (s : System) (e : Event) : Decidable (Expires s e) :=
  match e with
  | .process timestep_100ns _ => inferInstanceAs (Decidable (s.comm.is_connected = true ∧
      (s.main.m_timebase.step timestep_100ns).has_expired s.comm.m_heartbeat_timestamp
        (Platform.comm_heartbeat_timeout_us * 10) = true))
  | .receive_data _ _ | .pop_data _ | .loop_process _ _ | .application _ =>
    inferInstanceAs (Decidable False)

/-- A call of `process` that finds a request waiting, which is not dropped with its session. -/
def FindsRequest (s : System) : Event → Prop
  | .process timestep_100ns stack =>
    has_request s = true ∧ ¬ Expires s (.process timestep_100ns stack)
  | _ => False

instance (s : System) (e : Event) : Decidable (FindsRequest s e) :=
  match e with
  | .process timestep_100ns stack => inferInstanceAs (Decidable
    (has_request s = true ∧ ¬ Expires s (.process timestep_100ns stack)))
  | .receive_data _ _ | .pop_data _ | .loop_process _ _ | .application _ =>
    inferInstanceAs (Decidable False)

/-- The call of `process` gives the comm handler a response with this code. -/
def AnsweredWith (s : System) (code : ResponseCode) : Event → Prop
  | .process timestep_100ns stack =>
    ∃ response, answer s timestep_100ns stack = some response ∧
      ResponseCode.cast response.response_code = some code
  | _ => False

/-- The call of `process` answers that the current session will be closed. -/
def AcceptsDisconnect (s : System) (e : Event) (id : uint32_t) : Prop :=
  Executes s e ∧ Asks s.comm .Disconnect ∧
    CodecV1_0.decode_request_comm_disconnect s.comm.m_active_request = some id ∧
    s.session = some id ∧ AnsweredWith s .OK e

theorem begin_process_pending (s : System) (timestep_100ns : timediff_t) :
    (begin_process s timestep_100ns).main.m_disconnect_pending = s.main.m_disconnect_pending := by
  rw [begin_process_main]

theorem begin_process_processing (s : System) (timestep_100ns : timediff_t) :
    (begin_process s timestep_100ns).main.m_processing_request = s.main.m_processing_request := by
  rw [begin_process_main]

/-- A request that is executed was there before the call. -/
theorem has_request_begin {s : System} (h : s.main.Ready) {timestep_100ns : timediff_t}
    (hrequest : has_request (begin_process s timestep_100ns) = true) : has_request s = true := by
  rw [has_request, begin_process_comm h hrequest, begin_process_processing] at hrequest
  exact hrequest

theorem answered_with {s : System} {timestep_100ns : timediff_t} {stack : Stack}
    (hrequest : has_request (begin_process s timestep_100ns) = true) {code : ResponseCode}
    (hcode : executed_code (begin_process s timestep_100ns) stack = some code)
    (hagain : code ≠ .ProcessAgain) (hsilent : code ≠ .NoResponseToSend) :
    AnsweredWith s code (.process timestep_100ns stack) := by
  have hfinal : final_response (execute_request (begin_process s timestep_100ns) stack) =
      some (execute_request (begin_process s timestep_100ns) stack).comm.m_active_response := by
    rw [executed_code] at hcode
    rw [final_response]
    simp only [hcode]
    cases code with
    | ProcessAgain => exact absurd rfl hagain
    | NoResponseToSend => exact absurd rfl hsilent
    | _ => rfl
  refine ⟨_, ?_, hcode⟩
  rw [answer]
  exact (if_pos hrequest).trans hfinal

/-- A call gives one answer. -/
theorem AnsweredWith.unique {s : System} {e : Event} {code other : ResponseCode}
    (h : AnsweredWith s code e) (h' : AnsweredWith s other e) : other = code := by
  cases e with
  | process timestep_100ns stack =>
    obtain ⟨response, hanswer, hcode⟩ := h
    obtain ⟨response', hanswer', hcode'⟩ := h'
    obtain rfl := Option.some.inj (hanswer.symm.trans hanswer')
    exact Option.some.inj (hcode'.symm.trans hcode)
  | _ => exact h.elim

/-- The session is to be closed when its last response is sent. -/
def Closing (s : System) (e : Event) : Prop :=
  s.main.m_disconnect_pending = true ∨ ∃ id, AcceptsDisconnect s e id

/-- What a step does to the session. -/
inductive SessionStep (s : System) (e : Event) : Prop
  | kept (hsession : (step s e).session = s.session)
  | opened (hopens : Opens s e) (hactive : (step s e).session.isSome = true)
  | expired (hexpires : Expires s e) (hnone : (step s e).session = none)
  | disconnected (hclosing : Closing s e) (hsent : (step s e).comm.m_state ≠ .Transmitting)
      (hnone : (step s e).session = none)

/-- What a step does to the session and to its end. -/
structure Proceeds (s : System) (e : Event) : Prop where
  settled : Settled (step s e).main
  session : SessionStep s e
  closing : (step s e).main.m_disconnect_pending = true →
    Closing s e ∧ (step s e).session = s.session

/-- A step that ends with a look at what was sent. -/
theorem proceeds_of_finishes {s middle : System} {e : Event}
    (hsettled : Settled (step s e).main) (hfinishes : Finishes middle.main (step s e).main)
    (hsame : SameSession s.comm middle.comm)
    (hclosing : middle.main.m_disconnect_pending = true → Closing s e) : Proceeds s e := by
  cases hfinishes with
  | kept hsession hpending =>
    have hkept := session_of_same (hsame.trans hsession)
    refine ⟨hsettled, .kept hkept, fun hlater => ⟨hclosing ?_, hkept⟩⟩
    rw [← hpending]
    exact hlater
  | disconnected hpending hsent hinactive hdone =>
    refine ⟨hsettled, .disconnected (hclosing hpending) hsent ?_, fun hlater => ?_⟩
    · exact session_eq_none.mpr hinactive
    · cases hlater.symm.trans hdone

theorem pop_data_proceeds {s : System} (hsettled : Settled s.main) (len : uint16_t) :
    Proceeds s (.pop_data len) := by
  let popped := s.set_comm (s.comm.pop_data s.main.m_timebase len).1
  have hstep : (step s (.pop_data len)).main = popped.main.check_finished_sending := rfl
  have hfinishes : Finishes popped.main (step s (.pop_data len)).main :=
    check_finished_sending_finishes
  refine proceeds_of_finishes ?_ hfinishes ?_ ?_
  · rw [hstep]
    exact check_finished_sending_settled hsettled.processing
  · exact pop_data_same_session s.comm s.main.m_timebase len
  · exact fun hpending => .inl hpending

theorem receive_data_proceeds {s : System} (h : s.main.Ready) (hsettled : Settled s.main)
    (data : ByteBuffer) (len : uint16_t) : Proceeds s (.receive_data data len) := by
  have hsession : (step s (.receive_data data len)).session = s.session :=
    session_of_same (receive_data_same_session s.comm s.main.m_timebase data len)
  refine ⟨⟨fun hprocessing => ?_, hsettled.processing⟩, .kept hsession, fun hpending =>
    ⟨.inl hpending, hsession⟩⟩
  have htransmitting : s.comm.m_state = .Transmitting := hsettled.transmitting hprocessing
  have henabled : s.comm.m_enabled = true := h.comm.enabled
  change (s.comm.receive_data s.main.m_timebase data len).m_state = .Transmitting
  rw [CommHandler.receive_data, if_neg (by simp [henabled]), if_pos htransmitting]
  exact htransmitting

/-- Before a request is looked at, the session is as it was, or it has expired. -/
theorem begin_process_session (s : System) (timestep_100ns : timediff_t)
    (stack : Stack) :
    (begin_process s timestep_100ns).comm = s.comm ∨
      Expires s (.process timestep_100ns stack) ∧
        (begin_process s timestep_100ns).comm.m_session_active = false ∧
        (begin_process s timestep_100ns).comm.m_state = .Idle := by
  have hcomm : (begin_process s timestep_100ns).comm =
      s.comm.process (s.main.m_timebase.step timestep_100ns) := by
    rw [System.comm, begin_process_main]
  rw [hcomm, CommHandler.process]
  split
  · rename_i hactive
    split
    · rename_i hexpired
      exact .inr ⟨⟨hactive, hexpired⟩, reset_session_inactive _ _, reset_state _ _⟩
    · exact .inl rfl
  · exact .inl rfl

theorem end_process_settled {s : System}
    (hprocessing : s.main.m_disconnect_pending = true → s.main.m_processing_request = true) :
    Settled (end_process s).main := by
  have hsettled := check_finished_sending_settled hprocessing
  rw [end_process_main]
  exact ⟨hsettled.transmitting, hsettled.processing⟩

theorem end_process_finishes (s : System) : Finishes s.main (end_process s).main := by
  have hmain := end_process_main s
  have hfinishes : Finishes s.main s.main.check_finished_sending :=
    check_finished_sending_finishes
  cases hfinishes with
  | kept hsession hpending =>
    refine .kept ?_ ?_
    · rw [hmain]
      exact hsession
    · rw [hmain]
      exact hpending
  | disconnected hpending hsent hinactive hdone =>
    refine .disconnected hpending ?_ ?_ ?_
    · rw [hmain]
      exact hsent
    · rw [hmain]
      exact hinactive
    · rw [hmain]
      exact hdone

/-- Nothing starts to be transmitted at the end of a call. -/
theorem end_process_not_transmitting {s : System} (hstate : s.comm.m_state ≠ .Transmitting) :
    (end_process s).comm.m_state ≠ .Transmitting := by
  rw [end_process_comm]
  by_cases hprocessing : s.main.m_processing_request = true
  · exact check_finished_sending_of_sent hprocessing hstate
  · rw [MainHandler.check_finished_sending, if_neg hprocessing]
    exact hstate

theorem process_expired_proceeds {s : System} (hsettled : Settled s.main)
    {timestep_100ns : timediff_t} {stack : Stack}
    (hexpires : Expires s (.process timestep_100ns stack))
    (hstep : step s (.process timestep_100ns stack) = end_process (begin_process s timestep_100ns))
    (hinactive : (begin_process s timestep_100ns).comm.m_session_active = false)
    (hstate : (begin_process s timestep_100ns).comm.m_state = .Idle) :
    Proceeds s (.process timestep_100ns stack) := by
  have hafter : Settled (end_process (begin_process s timestep_100ns)).main := by
    apply end_process_settled
    rw [begin_process_pending, begin_process_processing]
    exact hsettled.processing
  have hidle : (end_process (begin_process s timestep_100ns)).comm.m_state ≠ .Transmitting := by
    apply end_process_not_transmitting
    rw [hstate]
    exact State.noConfusion
  have hnone : (end_process (begin_process s timestep_100ns)).session = none := by
    apply session_eq_none.mpr
    cases end_process_finishes (begin_process s timestep_100ns) with
    | kept hsession hpending => exact hsession.active.trans hinactive
    | disconnected hpending hsent hinactive hdone => exact hinactive
  refine ⟨?_, .expired hexpires ?_, fun hpending => ?_⟩
  · rw [hstep]
    exact hafter
  · rw [hstep]
    exact hnone
  · rw [hstep] at hpending
    exact absurd (hafter.transmitting (hafter.processing hpending)) hidle

/-- The session is not about to be closed when a request is executed. -/
theorem begin_process_not_closing {s : System} (hsettled : Settled s.main)
    {timestep_100ns : timediff_t}
    (hrequest : has_request (begin_process s timestep_100ns) = true) :
    (begin_process s timestep_100ns).main.m_disconnect_pending = false := by
  have hidle : (begin_process s timestep_100ns).main.m_processing_request = false := by
    simp only [has_request, Bool.and_eq_true, Bool.not_eq_true'] at hrequest
    exact hrequest.2
  rw [begin_process_processing] at hidle
  rw [begin_process_pending]
  by_contra hpending
  cases hidle.symm.trans (hsettled.processing (Bool.eq_true_of_not_eq_false hpending))

theorem end_process_kept {s : System} (hpending : s.main.m_disconnect_pending = false) :
    (end_process s).comm.m_session_active = s.comm.m_session_active ∧
      (end_process s).main.m_disconnect_pending = false := by
  cases end_process_finishes s with
  | kept hsession hsame => exact ⟨hsession.active, hsame.trans hpending⟩
  | disconnected hclosing hsent hinactive hdone => cases hpending.symm.trans hclosing

/-- A connection that is accepted opens a session, which the call does not close. -/
theorem process_request_opens {s : System} (h : s.main.Ready) (hsettled : Settled s.main)
    {timestep_100ns : timediff_t} {stack : Stack}
    (hrequest : has_request (begin_process s timestep_100ns) = true)
    (hstep : step s (.process timestep_100ns stack) =
      end_process (finish_request (execute_request (begin_process s timestep_100ns) stack)))
    (haccepts : accepts_connect s.comm s.comm.m_active_request = true) :
    (step s (.process timestep_100ns stack)).session.isSome = true ∧
      (step s (.process timestep_100ns stack)).main.m_disconnect_pending = false := by
  have haccepts : accepts_connect (begin_process s timestep_100ns).comm
      (begin_process s timestep_100ns).comm.m_active_request = true := by
    rw [begin_process_comm h hrequest]
    exact haccepts
  have hnothing := begin_process_not_closing hsettled hrequest
  have hactive := execute_request_opens stack haccepts
  have hidle : (execute_request (begin_process s timestep_100ns) stack).main.m_disconnect_pending =
      false := by
    by_contra hclosing
    obtain ⟨hasks, _⟩ := execute_request_disconnects
      (Bool.eq_true_of_not_eq_false hclosing) hnothing
    cases hasks.2.symm.trans (accepts_connect_asks haccepts).2
  rw [hstep]
  generalize execute_request (begin_process s timestep_100ns) stack = executed at hactive hidle ⊢
  have hpending : (finish_request executed).main.m_disconnect_pending = false :=
    (finish_request_pending executed).trans hidle
  obtain ⟨hsession, hsame⟩ := end_process_kept hpending
  have hconnected : (end_process (finish_request executed)).comm.is_connected = true := by
    rw [is_connected, hsession, (finish_request_same_session executed).active, hactive]
  refine ⟨?_, hsame⟩
  rw [session, if_pos hconnected]
  rfl

theorem process_request_proceeds {s : System} (h : s.main.Ready) (hsettled : Settled s.main)
    {timestep_100ns : timediff_t} {stack : Stack}
    (hrequest : has_request (begin_process s timestep_100ns) = true)
    (hstep : step s (.process timestep_100ns stack) =
      end_process (finish_request (execute_request (begin_process s timestep_100ns) stack))) :
    Proceeds s (.process timestep_100ns stack) := by
  let executed := execute_request (begin_process s timestep_100ns) stack
  have hcomm := begin_process_comm h hrequest
  have hnothing := begin_process_not_closing hsettled hrequest
  have hpending : (finish_request executed).main.m_disconnect_pending =
      executed.main.m_disconnect_pending := finish_request_pending executed
  -- the session is closed by this request only when it asks for it
  have hclosing : executed.main.m_disconnect_pending = true →
      (∃ id, AcceptsDisconnect s (.process timestep_100ns stack) id) ∧
        executed_code (begin_process s timestep_100ns) stack = some .OK := by
    intro hexecuted
    obtain ⟨hasks, hdecode, hconnected, hcode⟩ := execute_request_disconnects hexecuted hnothing
    rw [hcomm] at hasks hdecode hconnected
    refine ⟨⟨_, hrequest, hasks, hdecode, session_eq_some.mpr ⟨hconnected, rfl⟩, ?_⟩, hcode⟩
    exact answered_with hrequest hcode ResponseCode.noConfusion ResponseCode.noConfusion
  have hafter : Settled (end_process (finish_request executed)).main := by
    apply end_process_settled
    intro hlater
    rw [hpending] at hlater
    apply finish_request_processing
    refine .inl fun hagain => ?_
    cases hagain.symm.trans (hclosing hlater).2
  have hfinishes : Finishes (finish_request executed).main
      (end_process (finish_request executed)).main := end_process_finishes _
  have hfinished := finish_request_same_session executed
  rw [← hstep] at hafter hfinishes
  cases haccepts : accepts_connect s.comm s.comm.m_active_request with
  | false =>
    have hrefused : accepts_connect (begin_process s timestep_100ns).comm
        (begin_process s timestep_100ns).comm.m_active_request = false := by
      rw [hcomm]
      exact haccepts
    have hsame := execute_request_same_session stack hrefused
    rw [hcomm] at hsame
    refine proceeds_of_finishes hafter hfinishes (hsame.trans hfinished) fun hlater => ?_
    rw [hpending] at hlater
    exact .inr (hclosing hlater).1
  | true =>
    obtain ⟨hactive, hnone⟩ := process_request_opens h hsettled hrequest hstep haccepts
    refine ⟨hafter, .opened ⟨has_request_begin h hrequest, haccepts⟩ hactive, fun hlater => ?_⟩
    cases hnone.symm.trans hlater

theorem process_proceeds {s : System} (h : s.main.Ready) (hsettled : Settled s.main)
    (timestep_100ns : timediff_t) (stack : Stack) :
    Proceeds s (.process timestep_100ns stack) := by
  let begun := begin_process s timestep_100ns
  have hpending : begun.main.m_disconnect_pending = s.main.m_disconnect_pending :=
    begin_process_pending s timestep_100ns
  have hprocessing : begun.main.m_processing_request = s.main.m_processing_request :=
    begin_process_processing s timestep_100ns
  have hstep : step s (.process timestep_100ns stack) = end_process (serve_request begun stack) :=
    process_eq h.enabled timestep_100ns stack
  by_cases hrequest : has_request begun = true
  · have hserved : serve_request begun stack = finish_request (execute_request begun stack) :=
      if_pos hrequest
    rw [hserved] at hstep
    exact process_request_proceeds h hsettled hrequest hstep
  · have hserved : serve_request begun stack = begun := if_neg hrequest
    rw [hserved] at hstep
    rcases begin_process_session s timestep_100ns stack with
      hcomm | ⟨hexpires, hinactive, hstate⟩
    · have hfinishes : Finishes begun.main (step s (.process timestep_100ns stack)).main := by
        rw [hstep]
        exact end_process_finishes begun
      refine proceeds_of_finishes ?_ hfinishes ?_ ?_
      · rw [hstep]
        apply end_process_settled
        rw [hpending, hprocessing]
        exact hsettled.processing
      · rw [hcomm]
        exact .refl s.comm
      · rw [hpending]
        exact fun hpending => .inl hpending
    · exact process_expired_proceeds hsettled hexpires hstep hinactive hstate

/-- A loop touches nothing but the datalogging. -/
theorem loop_process_main (s : System) (id : LoopId) (timestep_100ns : timediff_t) :
    ∃ m_datalogging, (step s (.loop_process id timestep_100ns)).main =
      { s.main with m_datalogging } := by
  rw [step]
  split
  · exact ⟨_, LoopHandler.process_common_main s id timestep_100ns⟩
  · exact ⟨s.main.m_datalogging, rfl⟩

theorem step_proceeds {s : System} (h : s.main.Ready) (hsettled : Settled s.main) (e : Event) :
    Proceeds s e := by
  cases e with
  | receive_data data len => exact receive_data_proceeds h hsettled data len
  | pop_data len => exact pop_data_proceeds hsettled len
  | process timestep_100ns stack => exact process_proceeds h hsettled timestep_100ns stack
  | loop_process id timestep_100ns =>
    obtain ⟨m_datalogging, hmain⟩ := loop_process_main s id timestep_100ns
    have hsession : (step s (.loop_process id timestep_100ns)).session = s.session := by
      rw [session, session, comm, comm, hmain]
    refine ⟨?_, .kept hsession, fun hpending => ⟨.inl ?_, hsession⟩⟩
    · rw [hmain]
      exact ⟨hsettled.transmitting, hsettled.processing⟩
    · rw [hmain] at hpending
      exact hpending
  | application bytes => exact ⟨hsettled, .kept rfl, fun hpending => ⟨.inl hpending, rfl⟩⟩

/-- A connection request that waits without a session is executed. -/
theorem opens_executes {s : System} {e : Event} (hopens : Opens s e) :
    Executes s e ∧ s.session = none := by
  cases e with
  | process timestep_100ns stack =>
    obtain ⟨hrequest, haccepts⟩ := hopens
    have hdisconnected : s.comm.is_connected = false := by
      simp only [accepts_connect, Bool.and_eq_true, Bool.not_eq_true'] at haccepts
      exact haccepts.2
    have hcomm : (begin_process s timestep_100ns).comm = s.comm := by
      rcases begin_process_session s timestep_100ns stack with hcomm | ⟨⟨hconnected, _⟩, _⟩
      · exact hcomm
      · cases hdisconnected.symm.trans hconnected
    refine ⟨?_, session_eq_none.mpr hdisconnected⟩
    rw [Executes, has_request, hcomm, begin_process_processing]
    exact hrequest
  | _ => exact hopens.elim

theorem opens_asks {s : System} {e : Event} (hopens : Opens s e) : Asks s.comm .Connect := by
  cases e with
  | process timestep_100ns stack => exact accepts_connect_asks hopens.2
  | _ => exact hopens.elim

theorem step_opens {s : System} (h : s.main.Ready) (hsettled : Settled s.main) {e : Event}
    (hopens : Opens s e) : (step s e).session.isSome = true := by
  have hexecutes := (opens_executes hopens).1
  cases e with
  | process timestep_100ns stack =>
    have hbegun : has_request (begin_process s timestep_100ns) = true := hexecutes
    have hstep : step s (.process timestep_100ns stack) =
        end_process (finish_request (execute_request (begin_process s timestep_100ns) stack)) := by
      rw [step, process_eq h.enabled, serve_request, if_pos hbegun]
    exact (process_request_opens h hsettled hbegun hstep hopens.2).1
  | _ => exact hopens.elim

/-- The session was told, since it was opened, that it would be closed. -/
def ToldToClose (start : System) (events : List Event) (id : uint32_t) : Prop :=
  Once step (fun s e later => AcceptsDisconnect s e id ∧
    Along step (fun s _ => s.session = some id) (step s e) later) start events

theorem ToldToClose.snoc {start : System} {events : List Event} {id : uint32_t}
    (h : ToldToClose start events id) {e : Event}
    (hsession : (run step start events).session = some id) :
    ToldToClose start (events ++ [e]) id := by
  refine Once.snoc h fun s' e' later hlast ⟨haccepts, hsince⟩ => ⟨haccepts, ?_⟩
  refine Along.append.mpr ⟨hsince, ?_, trivial⟩
  rw [hlast]
  exact hsession

/-- A session to be closed was told so. -/
structure Courteous (start : System) (events : List Event) (s : System) : Prop where
  ready : s.main.Ready
  settled : Settled s.main
  told : s.main.m_disconnect_pending = true →
    ∃ id, s.session = some id ∧ ToldToClose start events id

theorem Courteous.closing {start : System} {events : List Event}
    (h : Courteous start events (run step start events)) {e : Event}
    (hclosing : Closing (run step start events) e) :
    ∃ id, (run step start events).session = some id ∧ ToldToClose start (events ++ [e]) id := by
  rcases hclosing with hpending | ⟨id, haccepts⟩
  · obtain ⟨id, hsession, htold⟩ := h.told hpending
    exact ⟨id, hsession, htold.snoc hsession⟩
  · exact ⟨id, haccepts.2.2.2.1, Once.last ⟨haccepts, trivial⟩⟩

theorem Courteous.step {start : System} {events : List Event}
    (h : Courteous start events (run step start events)) (e : Event) :
    Courteous start (events ++ [e]) (step (run System.step start events) e) := by
  have hproceeds := step_proceeds h.ready h.settled e
  refine ⟨step_ready h.ready e, hproceeds.settled, fun hpending => ?_⟩
  obtain ⟨hclosing, hsession⟩ := hproceeds.closing hpending
  obtain ⟨id, hid, htold⟩ := h.closing hclosing
  exact ⟨id, hsession.trans hid, htold⟩

theorem initial_courteous {start : System} (hinitial : Initial start) :
    Courteous start [] start := by
  have hatstart := initial_at_start hinitial
  refine ⟨initial_ready hinitial, ⟨fun hprocessing => ?_, fun hpending => ?_⟩, fun hpending => ?_⟩
  · cases hatstart.processing_request.symm.trans hprocessing
  · cases hatstart.disconnect_pending.symm.trans hpending
  · cases hatstart.disconnect_pending.symm.trans hpending

/-- The life of a session, in the step that comes after some events. -/
structure LivesThrough (start : System) (events : List Event) (e : Event) : Prop where
  opened : (run step start events).session = none →
    (step (run step start events) e).session.isSome = true →
      Executes (run step start events) e ∧ Asks (run step start events).comm .Connect ∧
        (run step start events).comm.m_active_request.payload = CommControl.CONNECT_MAGIC
  closed : ∀ id, (run step start events).session = some id →
    (step (run step start events) e).session = none →
      Expires (run step start events) e ∨ ToldToClose start (events ++ [e]) id ∧
        (step (run step start events) e).comm.transmitting = false
  constant : ∀ id id', (run step start events).session = some id →
    (step (run step start events) e).session = some id' → id' = id
  refused : ∀ id, (run step start events).session = some id →
    Executes (run step start events) e → Asks (run step start events).comm .Connect →
      AnsweredWith (run step start events) .Busy e ∧
        (step (run step start events) e).session = some id

/-- A connection request that would open a session carries the magic, and one that is found in a
session has the length of the magic. -/
def ConnectsAsMeant (s : System) (e : Event) : Prop :=
  (Opens s e → s.comm.m_active_request.payload = CommControl.CONNECT_MAGIC) ∧
    (FindsRequest s e → Asks s.comm .Connect → s.session.isSome = true →
      s.comm.m_active_request.payload.length = CommControl.CONNECT_MAGIC.length)

instance (s : System) (e : Event) : Decidable (ConnectsAsMeant s e) :=
  inferInstanceAs (Decidable ((_ → _) ∧ (_ → _)))

theorem executes_not_closing {s : System} (hsettled : Settled s.main) {e : Event}
    (hexecutes : Executes s e) : s.main.m_disconnect_pending = false := by
  cases e with
  | process timestep_100ns stack =>
    rw [← begin_process_pending s timestep_100ns]
    exact begin_process_not_closing hsettled hexecutes
  | _ => exact hexecutes.elim

theorem executes_not_expires {s : System} (h : s.main.Ready) {e : Event}
    (hexecutes : Executes s e) : ¬ Expires s e := by
  intro hexpires
  cases e with
  | process timestep_100ns stack =>
    obtain ⟨hactive, hexpired⟩ := hexpires
    have hcomm : (begin_process s timestep_100ns).comm =
        s.comm.reset (s.main.m_timebase.step timestep_100ns) := by
      rw [System.comm, begin_process_main]
      exact (if_pos hactive).trans (if_pos hexpired)
    have hdropped : (s.comm.reset (s.main.m_timebase.step timestep_100ns)).m_request_received =
        false := reset_not_received h.comm.enabled _
    have hrequest : has_request (begin_process s timestep_100ns) = true := hexecutes
    rw [has_request, hcomm, request_received, hdropped] at hrequest
    cases hrequest
  | _ => exact hexecutes.elim

/-- The request that is found is the one that is executed. -/
theorem executes_iff {s : System} (h : s.main.Ready) {e : Event} :
    Executes s e ↔ FindsRequest s e := by
  cases e with
  | process timestep_100ns stack =>
    constructor
    · intro hexecutes
      exact ⟨has_request_begin h hexecutes, executes_not_expires h hexecutes⟩
    · rintro ⟨hrequest, hexpires⟩
      have hcomm : (begin_process s timestep_100ns).comm = s.comm := by
        rcases begin_process_session s timestep_100ns stack with hcomm | ⟨hexpired, _⟩
        · exact hcomm
        · exact absurd hexpired hexpires
      rw [Executes, has_request, hcomm, begin_process_processing]
      exact hrequest
  | _ => exact Iff.rfl

/-- A second connection is refused, and the session goes on. -/
theorem connect_refused {s : System} (h : s.main.Ready) (hsettled : Settled s.main) {e : Event}
    (hexecutes : Executes s e) (hasks : Asks s.comm .Connect) {id : uint32_t}
    (hsession : s.session = some id) :
    AnsweredWith s
        (if (CodecV1_0.decode_request_comm_connect s.comm.m_active_request).isSome then .Busy
        else .InvalidRequest) e ∧ (step s e).session = some id := by
  refine ⟨?_, ?_⟩
  · cases e with
    | process timestep_100ns stack =>
      have hcomm := begin_process_comm h hexecutes
      have hcode : executed_code (begin_process s timestep_100ns) stack = some
          (if (CodecV1_0.decode_request_comm_connect s.comm.m_active_request).isSome then .Busy
          else .InvalidRequest) := by
        have hbegun : Asks (begin_process s timestep_100ns).comm .Connect := by
          rw [hcomm]
          exact hasks
        have hconnected : (begin_process s timestep_100ns).comm.is_connected = true := by
          rw [hcomm]
          exact (session_eq_some.mp hsession).1
        rw [executed_code_connect hbegun hconnected, hcomm]
      apply answered_with hexecutes hcode
      · split <;> exact ResponseCode.noConfusion
      · split <;> exact ResponseCode.noConfusion
    | _ => exact hexecutes.elim
  · cases (step_proceeds h hsettled e).session with
    | kept hkept => exact hkept.trans hsession
    | opened hopens _ => cases (opens_executes hopens).2.symm.trans hsession
    | expired hexpires _ => exact absurd hexpires (executes_not_expires h hexecutes)
    | disconnected hclosing _ _ =>
      rcases hclosing with hpending | ⟨_, haccepts⟩
      · cases (executes_not_closing hsettled hexecutes).symm.trans hpending
      · cases haccepts.2.1.2.symm.trans hasks.2

theorem Courteous.lives_through {start : System} {events : List Event}
    (h : Courteous start events (run System.step start events)) {e : Event}
    (hmeant : ConnectsAsMeant (run System.step start events) e) :
    LivesThrough start events e := by
  have hsession := (step_proceeds h.ready h.settled e).session
  refine ⟨fun hnone hsome => ?_, fun id hsome hnone => ?_, fun id id' hsome hlater => ?_,
    fun id hsome hexecutes hasks => ?_⟩
  · cases hsession with
    | kept hkept => simp [hkept, hnone] at hsome
    | opened hopens _ =>
      exact ⟨(opens_executes hopens).1, opens_asks hopens, hmeant.1 hopens⟩
    | expired _ hclosed => simp [hclosed] at hsome
    | disconnected _ _ hclosed => simp [hclosed] at hsome
  · cases hsession with
    | kept hkept => cases (hkept.symm.trans hnone).symm.trans hsome
    | opened hopens _ => cases (opens_executes hopens).2.symm.trans hsome
    | expired hexpires _ => exact .inl hexpires
    | disconnected hclosing hsent _ =>
      obtain ⟨told, hid, htold⟩ := h.closing hclosing
      cases hsome.symm.trans hid
      exact .inr ⟨htold, beq_eq_false_iff_ne.mpr hsent⟩
  · cases hsession with
    | kept hkept => exact Option.some.inj (hlater.symm.trans (hkept.trans hsome))
    | opened hopens _ => cases (opens_executes hopens).2.symm.trans hsome
    | expired _ hclosed => cases hlater.symm.trans hclosed
    | disconnected _ _ hclosed => cases hlater.symm.trans hclosed
  · obtain ⟨hanswered, hlater⟩ := connect_refused h.ready h.settled hexecutes hasks hsome
    have hfound := (executes_iff h.ready).mp hexecutes
    have hlength := hmeant.2 hfound hasks (by rw [hsome, Option.isSome_some])
    rw [if_pos ((decode_connect_isSome _).mpr hlength)] at hanswered
    exact ⟨hanswered, hlater⟩

/-- A request that is answered as a second connection has its length. -/
theorem Courteous.length_of_busy {start : System} {events : List Event}
    (h : Courteous start events (run System.step start events)) {e : Event}
    (hlives : LivesThrough start events e) (hexecutes : Executes (run System.step start events) e)
    (hasks : Asks (run System.step start events).comm .Connect)
    (hactive : (run System.step start events).session.isSome = true) :
    (run System.step start events).comm.m_active_request.payload.length =
      CommControl.CONNECT_MAGIC.length := by
  obtain ⟨id, hsession⟩ := Option.isSome_iff_exists.mp hactive
  have hbusy := (hlives.refused id hsession hexecutes hasks).1
  obtain ⟨hanswered, _⟩ := connect_refused h.ready h.settled hexecutes hasks hsession
  rw [← decode_connect_isSome]
  by_contra hrefused
  rw [if_neg hrefused] at hanswered
  cases hanswered.unique hbusy

/-- Sessions are opened, kept and closed as they should in every step of a run just when the
requests that open one carry the magic, which the code does not check, and those that are found
in a session have its length. -/
theorem session_lifecycle {start : System} (hinitial : Initial start) (events : List Event) :
    (∀ before e after, events = before ++ e :: after → LivesThrough start before e) ↔
      Along step ConnectsAsMeant start events := by
  have hcourteous (before : List Event) : Courteous start before (run step start before) := by
    have halong : Along step (fun _ _ => True) start before :=
      along_iff_split.mpr fun _ _ _ _ => trivial
    exact run_invariant_past (initial_courteous hinitial) (fun _ e h _ => h.step e) halong
  rw [along_iff_split]
  refine forall_congr' fun before => forall_congr' fun e => forall_congr' fun after =>
    forall_congr' fun _ => ⟨fun hlives => ?_, fun hmeant => ?_⟩
  · have h := hcourteous before
    refine ⟨fun hopens => ?_, fun hfound hasks hactive => ?_⟩
    · exact (hlives.opened (opens_executes hopens).2 (step_opens h.ready h.settled hopens)).2.2
    · exact h.length_of_busy hlives ((executes_iff h.ready).mpr hfound) hasks hactive
  · exact (hcourteous before).lives_through hmeant

end System

end

section

attribute [local instance] host.platform

/-- A session is opened, and closed after a second connection was refused. -/
theorem session_lifecycle_of_disconnect :
    Along System.step System.ConnectsAsMeant host.start
        (host.connect ++ host.connect ++ host.exchange 2 5 [0, 0, 0, 0]) ∧
      ∀ before e after,
        host.connect ++ host.connect ++ host.exchange 2 5 [0, 0, 0, 0] = before ++ e :: after →
          System.LivesThrough host.start before e := by
  have hmeant : Along System.step System.ConnectsAsMeant host.start
      (host.connect ++ host.connect ++ host.exchange 2 5 [0, 0, 0, 0]) := by decide +kernel
  exact ⟨hmeant, (System.session_lifecycle host.initial_start _).mpr hmeant⟩

/-- A session is opened by a request with any four bytes. -/
theorem session_without_magic :
    ¬ ∀ s events, System.Initial s → ∀ before e after, events = before ++ e :: after →
      System.LivesThrough s before e := by
  intro hlives
  have hrun := hlives host.start (host.exchange 2 4 [0, 0, 0, 0]) host.initial_start
    [host.receive (host.frame 2 4 [0, 0, 0, 0])] (.process 0 host.stack) [.pop_data 0xFFFF] rfl
  have hmagic := (hrun.opened (by decide +kernel) (by decide +kernel)).2.2
  revert hmagic
  decide +kernel

end

end scrutiny
