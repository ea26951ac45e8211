import Scrutiny.Foundation.Past
import Scrutiny.MainHandler.Effects
import Scrutiny.Comm.Transmission
import Scrutiny.Host

open foundation

namespace scrutiny

open protocol

/-- The content of a request that waits to be processed. -/
structure PendingRequest where
  command_id : uint8_t
  subfunction_id : uint8_t
  data_length : uint16_t
  payload : List uint8_t
  deriving DecidableEq, Repr

namespace protocol.CommHandler

def pending_request (self : CommHandler) : Option PendingRequest :=
  if self.m_request_received then
    some {
      command_id := self.m_active_request.command_id
      subfunction_id := self.m_active_request.subfunction_id
      data_length := self.m_active_request.data_length
      payload := self.m_active_request.payload }
  else none

/-- The pending request is the same, or there is none any more. -/
def KeepsPending (before after : CommHandler) : Prop :=
  after.pending_request = before.pending_request ∨ after.pending_request = none

theorem KeepsPending.of_eq {before after : CommHandler}
    (hreceived : after.m_request_received = before.m_request_received)
    (hrequest : after.m_active_request = before.m_active_request) : KeepsPending before after := by
  left
  rw [pending_request, pending_request, hreceived, hrequest]

theorem KeepsPending.of_dropped {before after : CommHandler}
    (hreceived : after.m_request_received = false) : KeepsPending before after := by
  right
  simp [pending_request, hreceived]

theorem KeepsPending.refl (comm : CommHandler) : KeepsPending comm comm := .inl rfl

theorem KeepsPending.trans {first second third : CommHandler} (h : KeepsPending first second)
    (h' : KeepsPending second third) : KeepsPending first third := by
  rcases h' with h' | h'
  · rcases h with h | h
    · exact .inl (h'.trans h)
    · exact .inr (h'.trans h)
  · exact .inr h'

theorem reset_keeps_pending (self : CommHandler) (timebase : Timebase) :
    KeepsPending self (self.reset timebase) := by
  cases henabled : self.m_enabled with
  | true =>
    apply KeepsPending.of_dropped
    simp [reset, henabled, reset_rx, reset_tx]
  | false => exact KeepsPending.of_eq (by simp [reset, henabled]) (by simp [reset, henabled])

theorem connect_keeps_pending (self : CommHandler) (timebase : Timebase) :
    KeepsPending self (self.connect timebase).1 := by
  unfold connect
  split
  · exact KeepsPending.refl self
  · exact KeepsPending.of_dropped rfl

theorem send_response_keeps_pending (self : CommHandler) (response : Response) :
    KeepsPending self (self.send_response response).1 := by
  unfold send_response
  simp only
  repeat' split
  all_goals exact KeepsPending.of_eq rfl rfl

theorem pop_data_keeps_pending (self : CommHandler) (timebase : Timebase) (len : uint16_t) :
    KeepsPending self (self.pop_data timebase len).1 := by
  rcases pop_data_cases self timebase len with ⟨_, hself⟩ | ⟨_, sent, hsends⟩ | ⟨_, sent, hends⟩
  · rw [hself]
    exact KeepsPending.refl self
  · rw [hsends]
    exact KeepsPending.of_eq rfl rfl
  · rw [hends]
    exact KeepsPending.of_dropped rfl

variable [Platform]

theorem comm_process_keeps_pending (self : CommHandler) (timebase : Timebase) :
    KeepsPending self (self.process timebase) := by
  unfold process
  split
  · split
    · exact reset_keeps_pending self timebase
    · exact KeepsPending.refl self
  · exact KeepsPending.refl self

/-- The reception timeout has passed since the last bytes were received. -/
def reception_timed_out (self : CommHandler) (timebase : Timebase) : Bool :=
  timebase.has_expired self.m_last_rx_timestamp (Platform.comm_rx_timeout_us * 10)

/-- Bytes would be taken in, and they come too late to go with the earlier ones. -/
def overdue (self : CommHandler) (timebase : Timebase) : Bool :=
  self.m_enabled && decide (self.m_state ≠ .Transmitting) && self.reception_timed_out timebase

omit [Platform] in
theorem receive_loop_of_received {self : CommHandler} (hreceived : self.m_request_received = true)
    (timebase : Timebase) (data : ByteBuffer) (len fuel i : Nat) :
    receive_loop timebase data len fuel self i = self := by
  cases fuel with
  | zero => rfl
  | succ fuel =>
    rw [receive_loop, if_neg]
    simp [keeps_receiving, hreceived]

/-- A request that was received stays as it is when bytes come in time. -/
theorem receive_data_keeps_pending {self : CommHandler} {timebase : Timebase} {len : uint16_t}
    (hreceived : self.m_request_received = true)
    (hintime : len = 0 ∨ self.overdue timebase = false) (data : ByteBuffer) :
    (self.receive_data timebase data len).pending_request = self.pending_request := by
  unfold receive_data
  split
  · rfl
  · rename_i henabled
    split
    · rfl
    · rename_i hstate
      split
      · rename_i hlen
        have hintime : self.reception_timed_out timebase = false := by
          rcases hintime with hzero | hoverdue
          · exact absurd hzero hlen
          · simpa [overdue, henabled, hstate] using hoverdue
        have hbegin : self.begin_reception timebase = { self with
            m_last_rx_timestamp := timebase.get_timestamp
            m_state := if self.m_state = .Idle then .Receiving else self.m_state } := by
          rw [reception_timed_out] at hintime
          simp only [begin_reception, hintime, Bool.false_eq_true, if_false]
        simp only [hbegin]
        rw [receive_loop_of_received]
        · rfl
        · exact hreceived
      · simp only
        rw [receive_loop_of_received hreceived]

/-- A byte that cannot start a request, received too late, drops the pending one. -/
theorem receive_data_overdue {self : CommHandler} {timebase : Timebase}
    (hoverdue : self.overdue timebase = true) :
    (self.receive_data timebase (fun _ => 0x80) 1).pending_request = none := by
  simp only [overdue, Bool.and_eq_true, decide_eq_true_eq] at hoverdue
  obtain ⟨⟨henabled, hstate⟩, hexpired⟩ := hoverdue
  rw [reception_timed_out] at hexpired
  have hstart : (1 : uint16_t) ≠ 0 := by decide
  rw [receive_data, if_neg (by simp [henabled]), if_neg hstate, if_pos hstart]
  simp only [begin_reception, hexpired, if_true]
  simp [receive_loop, keeps_receiving, reset_rx, receive_step, pending_request]

/-- Whether a pending request would survive the next bytes, whatever they are. -/
theorem receive_data_keeps_pending_iff {self : CommHandler} {timebase : Timebase}
    (hreceived : self.m_request_received = true) :
    (∀ data len, (self.receive_data timebase data len).pending_request = self.pending_request) ↔
      self.overdue timebase = false := by
  constructor
  · intro hkeeps
    by_contra hoverdue
    have hdropped := receive_data_overdue (Bool.not_eq_false _ ▸ hoverdue)
    rw [hkeeps] at hdropped
    simp [pending_request, hreceived] at hdropped
  · intro hoverdue data len
    exact receive_data_keeps_pending hreceived (.inr hoverdue) data

end protocol.CommHandler

open protocol.CommHandler

section

variable [Platform]

namespace MainHandler

theorem check_finished_sending_keeps_pending (self : MainHandler) :
    KeepsPending self.m_comm_handler self.check_finished_sending.m_comm_handler := by
  unfold check_finished_sending
  split
  · split
    · simp only
      split
      · exact KeepsPending.of_dropped rfl
      · exact KeepsPending.of_dropped rfl
    · exact KeepsPending.refl _
  · exact KeepsPending.refl _

theorem execute_request_keeps_pending (s : System) (stack : Stack) :
    KeepsPending s.comm (execute_request s stack).comm := by
  obtain ⟨response, hcomm⟩ := execute_request_comm s stack
  split at hcomm
  · rw [hcomm]
    exact (connect_keeps_pending s.comm s.main.m_timebase).trans (KeepsPending.of_eq rfl rfl)
  · obtain ⟨timestamp, challenge, received, hcomm⟩ := hcomm
    rw [hcomm]
    exact KeepsPending.of_eq rfl rfl

theorem finish_request_keeps_pending (s : System) :
    KeepsPending s.comm (finish_request s).comm := by
  cases hfinal : final_response s with
  | none =>
    obtain ⟨timestamp, processing, taken, hfinish⟩ := finish_request_none hfinal
    rw [hfinish]
    exact KeepsPending.refl s.comm
  | some response =>
    rw [finish_request_some hfinal]
    exact KeepsPending.trans (KeepsPending.of_eq rfl rfl) (send_response_keeps_pending _ response)

theorem process_keeps_pending (s : System) (timestep_100ns : timediff_t) (stack : Stack) :
    KeepsPending s.comm (process s timestep_100ns stack).comm := by
  unfold process
  split
  · exact reset_keeps_pending s.comm s.main.m_timebase
  · simp only
    have hbegin : KeepsPending s.comm (begin_process s timestep_100ns).comm := by
      rw [System.comm, System.comm, begin_process_main]
      exact comm_process_keeps_pending _ _
    have hend (s : System) : KeepsPending s.comm (end_process s).comm := by
      rw [System.comm, System.comm, end_process_main]
      exact check_finished_sending_keeps_pending s.main
    refine hbegin.trans (KeepsPending.trans ?_ (hend _))
    split
    · exact (execute_request_keeps_pending _ stack).trans (finish_request_keeps_pending _)
    · exact KeepsPending.refl _

end MainHandler

namespace System

def pending_request (s : System) : Option PendingRequest := s.comm.pending_request

/-- The bytes that are received, if any, are not overdue for a request that is pending. -/
def on_time (s : System) : Event → Prop
  | .receive_data _ len => s.comm.request_received = true →
      len = 0 ∨ s.comm.overdue s.main.m_timebase = false
  | _ => True

instance (s : System) (e : Event) : Decidable (on_time s e) :=
  match e with
  | .receive_data _ len => inferInstanceAs (Decidable (s.comm.request_received = true →
    len = 0 ∨ s.comm.overdue s.main.m_timebase = false))
  | .pop_data _ | .process _ _ | .loop_process _ _ | .application _ =>
    inferInstanceAs (Decidable True)

theorem step_keeps_pending {s : System} {e : Event} (hguard : on_time s e)
    (hreceived : s.comm.request_received = true) : KeepsPending s.comm (step s e).comm := by
  cases e with
  | receive_data data len => exact .inl (receive_data_keeps_pending hreceived (hguard hreceived) data)
  | pop_data len =>
    exact (pop_data_keeps_pending s.comm s.main.m_timebase len).trans
      (MainHandler.check_finished_sending_keeps_pending _)
  | process timestep_100ns stack =>
    exact MainHandler.process_keeps_pending s timestep_100ns stack
  | loop_process id timestep_100ns =>
    rw [step]
    split
    · rw [comm, comm, LoopHandler.process_common_main]
      exact KeepsPending.refl s.comm
    · exact KeepsPending.refl s.comm
  | application bytes => exact KeepsPending.refl s.comm

/-- No call of `receive_data` can change the pending request. -/
def KeepsRequest (s : System) : Prop :=
  s.comm.request_received = true →
    ∀ data len, (MainHandler.receive_data s data len).pending_request = s.pending_request

/-- The reception timeout has not run out on a request that is pending. -/
def Fresh (s : System) : Prop :=
  s.comm.request_received = true → s.comm.overdue s.main.m_timebase = false

instance (s : System) : Decidable (Fresh s) :=
  inferInstanceAs (Decidable (s.comm.request_received = true →
    s.comm.overdue s.main.m_timebase = false))

theorem keepsRequest_iff_fresh (s : System) : KeepsRequest s ↔ Fresh s := by
  constructor
  · intro hkeeps hreceived
    exact (receive_data_keeps_pending_iff hreceived).mp (hkeeps hreceived)
  · intro hfresh hreceived data len
    exact (receive_data_keeps_pending_iff hreceived).mpr (hfresh hreceived) data len

/-- In all the states of a run in which the reception timeout has not run out on a pending
request, and in no others, its bytes are safe from `receive_data`. When nothing comes in
too late, a request that stays pending is the one that was received. -/
theorem pending_request_stable (s : System) (events : List Event) :
    (Always step KeepsRequest s events ↔ Always step Fresh s events) ∧
      (Along step on_time s events → ∀ request, s.pending_request = some request →
        Always step (fun s => s.comm.request_received = true) s events →
          Always step (fun s => s.pending_request = some request) s events) := by
  refine ⟨⟨?_, ?_⟩, ?_⟩
  · exact Always.mono fun s => (keepsRequest_iff_fresh s).mp
  · exact Always.mono fun s => (keepsRequest_iff_fresh s).mpr
  · intro hguard request hpending hreceived
    induction events generalizing s with
    | nil => exact hpending
    | cons e events ih =>
      refine ⟨hpending, ih (step s e) hguard.2 ?_ hreceived.2⟩
      rcases step_keeps_pending hguard.1 hreceived.1 with hsame | hnone
      · exact hsame.trans hpending
      · have hlater : (step s e).comm.m_request_received = true := hreceived.2.head
        simp [CommHandler.pending_request, hlater] at hnone

end System

end

section

attribute [local instance] host.platform

/-- A reset is asked for while a loop owns the datalogger, and waits for its release for
longer than the reception timeout. -/
def waiting_request : List Event :=
  host.connect ++ host.exchange 5 2 (host.configuration 0 0) ++
    [.loop_process 0 0, .process 0 host.stack, host.receive (host.frame 5 8 []),
      .process 0 host.stack, .process 500000 host.stack]

/-- The request to reset when it was tried once. -/
def reset_pending : System := run System.step host.start waiting_request.dropLast

/-- Bytes come in while it waits, and it is tried again. -/
def in_time : List Event :=
  [host.receive (host.frame 5 4 []), .process 10 host.stack, host.receive [0x80],
    .process 10 host.stack]

theorem pending_request_of_reset : ∃ request, reset_pending.pending_request = some request ∧
    Always System.step (fun s => s.pending_request = some request) reset_pending in_time := by
  have hsome : reset_pending.pending_request.isSome = true := by decide +kernel
  obtain ⟨request, hpending⟩ := Option.isSome_iff_exists.mp hsome
  exact ⟨request, hpending, (System.pending_request_stable reset_pending in_time).2
    (by decide +kernel) request hpending (by decide +kernel)⟩

theorem pending_request_lost :
    ¬ ∀ s, System.Reachable s → System.KeepsRequest s := by
  intro hkeeps
  have hfresh := (System.keepsRequest_iff_fresh _).mp (hkeeps _ (host.reachable_run waiting_request))
  revert hfresh
  decide +kernel

end

end scrutiny
