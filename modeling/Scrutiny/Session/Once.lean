import Scrutiny.Session.Gate

open foundation

namespace scrutiny

open protocol protocol.CommHandler

section

variable [Platform]

namespace MainHandler

/-- The result of the execution of the request. -/
def executed_code (s : System) (stack : Stack) : Option ResponseCode :=
  ResponseCode.cast (execute_request s stack).comm.m_active_response.response_code

/-- The request was executed for the last time: its response is being transmitted. -/
def Answered (s : System) : Prop :=
  s.main.m_processing_request = true ∧ s.comm.m_state = .Transmitting

theorem has_request_of_answered {s : System} (h : Answered s) : has_request s = false := by
  simp [has_request, h.1]

theorem check_finished_sending_of_answered {s : System} (h : Answered s) :
    s.main.check_finished_sending = s.main := by
  have htransmitting : s.main.m_comm_handler.transmitting = true := by
    rw [CommHandler.transmitting]
    exact beq_iff_eq.mpr h.2
  rw [check_finished_sending, if_pos h.1, if_neg (by simp [htransmitting])]

/-- A request that was answered is not executed again, as long as it is there. -/
theorem begin_process_answered {s : System} (h : Answered s) (hready : s.main.Ready)
    {timestep_100ns : timediff_t}
    (hwaiting : (begin_process s timestep_100ns).comm.request_received = true) :
    Answered (begin_process s timestep_100ns) := by
  have hcomm : (begin_process s timestep_100ns).comm =
      s.comm.process (s.main.m_timebase.step timestep_100ns) := by
    rw [System.comm, begin_process_main]
  have hprocessing : (begin_process s timestep_100ns).main.m_processing_request = true := by
    rw [begin_process_main]
    exact h.1
  refine ⟨hprocessing, ?_⟩
  rcases CommHandler.process_cases s.comm (s.main.m_timebase.step timestep_100ns) with
    hsame | hreset
  · rw [hcomm, hsame]
    exact h.2
  · have hdropped : (s.comm.reset (s.main.m_timebase.step timestep_100ns)).m_request_received =
        false := reset_not_received hready.comm.enabled _
    rw [request_received, hcomm, hreset, hdropped] at hwaiting
    cases hwaiting

theorem finish_request_processing {s : System}
    (hfinal : ResponseCode.cast s.comm.m_active_response.response_code ≠ some .ProcessAgain ∨
      (final_response s).isSome = true) : (finish_request s).main.m_processing_request = true := by
  cases hresponse : final_response s with
  | some response =>
    rw [finish_request_some hresponse]
    rfl
  | none =>
    have hcode : ResponseCode.cast s.comm.m_active_response.response_code ≠ some .ProcessAgain := by
      rcases hfinal with hcode | hsome
      · exact hcode
      · rw [hresponse] at hsome
        cases hsome
    unfold finish_request
    split
    · rename_i hcast
      exact absurd hcast hcode
    · rfl
    · rfl

/-- Once a request is done with, either its response is being transmitted or it is gone. -/
theorem end_process_answered {s : System} (hprocessing : s.main.m_processing_request = true)
    (hwaiting : (end_process s).comm.request_received = true) : Answered (end_process s) := by
  have hmain := end_process_main s
  by_cases htransmitting : s.comm.m_state = .Transmitting
  · rw [check_finished_sending_of_answered ⟨hprocessing, htransmitting⟩] at hmain
    rw [Answered, System.comm, hmain]
    exact ⟨hprocessing, htransmitting⟩
  · have hdropped : s.main.check_finished_sending.m_comm_handler.m_request_received = false := by
      have hsent : (!s.main.m_comm_handler.transmitting) = true := by
        simpa [CommHandler.transmitting, System.comm] using htransmitting
      rw [check_finished_sending, if_pos hprocessing, if_pos hsent]
      simp only
      split <;> rfl
    rw [System.end_process_comm, request_received, hdropped] at hwaiting
    cases hwaiting

end MainHandler

namespace System

open MainHandler

/-- The call executes the request that waits. -/
def Executes (s : System) : Event → Prop
  | .process timestep_100ns _ => has_request (begin_process s timestep_100ns) = true
  | _ => False

/-- The call executes the request with a final result, or gives up on it. -/
def Concludes (s : System) : Event → Prop
  | .process timestep_100ns stack =>
    has_request (begin_process s timestep_100ns) = true ∧
      (executed_code (begin_process s timestep_100ns) stack ≠ some .ProcessAgain ∨
        (answer s timestep_100ns stack).isSome = true)
  | _ => False

instance (s : System) (e : Event) : Decidable (Executes s e) :=
  match e with
  | .process timestep_100ns _ =>
    inferInstanceAs (Decidable (has_request (begin_process s timestep_100ns) = true))
  | .receive_data _ _ | .pop_data _ | .loop_process _ _ | .application _ =>
    inferInstanceAs (Decidable False)

instance (s : System) (e : Event) : Decidable (Concludes s e) :=
  match e with
  | .process timestep_100ns stack => inferInstanceAs (Decidable
    (has_request (begin_process s timestep_100ns) = true ∧
      (executed_code (begin_process s timestep_100ns) stack ≠ some .ProcessAgain ∨
        (answer s timestep_100ns stack).isSome = true)))
  | .receive_data _ _ | .pop_data _ | .loop_process _ _ | .application _ =>
    inferInstanceAs (Decidable False)

theorem conclude_answered {s : System} (h : s.main.Ready) {e : Event} (hconcludes : Concludes s e)
    (hwaiting : (step s e).comm.request_received = true) : Answered (step s e) := by
  cases e with
  | process timestep_100ns stack =>
    obtain ⟨hrequest, hfinal⟩ := hconcludes
    have hanswer : answer s timestep_100ns stack =
        final_response (execute_request (begin_process s timestep_100ns) stack) := by
      rw [answer]
      exact if_pos hrequest
    rw [hanswer] at hfinal
    have hstep : step s (.process timestep_100ns stack) =
        end_process (finish_request (execute_request (begin_process s timestep_100ns) stack)) := by
      rw [step, process_eq h.enabled, serve_request, if_pos hrequest]
    rw [hstep] at hwaiting ⊢
    exact end_process_answered (finish_request_processing hfinal) hwaiting
  | _ => exact hconcludes.elim

/-- A request that was answered stays so until it is gone. -/
theorem step_answered {s : System} (h : s.main.Ready) (hanswered : Answered s) {e : Event}
    (hwaiting : (step s e).comm.request_received = true) : Answered (step s e) := by
  cases e with
  | receive_data data len =>
    have hsame : step s (.receive_data data len) = s := by
      change s.set_comm (s.comm.receive_data s.main.m_timebase data len) = s
      have henabled : s.comm.m_enabled = true := h.comm.enabled
      rw [CommHandler.receive_data, if_neg (by simp [henabled]), if_pos hanswered.2]
      rfl
    rw [hsame]
    exact hanswered
  | pop_data len =>
    let popped := s.set_comm (s.comm.pop_data s.main.m_timebase len).1
    have hstep : step s (.pop_data len) =
        { popped with main := popped.main.check_finished_sending } := rfl
    rcases pop_data_cases s.comm s.main.m_timebase len with
      ⟨hidle, _⟩ | ⟨_, sent, hsends⟩ | ⟨_, sent, hends⟩
    · exact absurd hanswered.2 hidle
    · have hpopped : Answered popped := by
        refine ⟨hanswered.1, ?_⟩
        change (s.comm.pop_data s.main.m_timebase len).1.m_state = .Transmitting
        rw [hsends]
        exact hanswered.2
      rw [hstep, check_finished_sending_of_answered hpopped]
      exact hpopped
    · have hdropped : popped.comm.m_request_received = false := by
        change (s.comm.pop_data s.main.m_timebase len).1.m_request_received = false
        rw [hends]
        rfl
      have hlater := (check_finished_sending_keeps_session popped.main).session hwaiting
      cases hlater.1.symm.trans hdropped
  | process timestep_100ns stack =>
    have hbegun : (begin_process s timestep_100ns).comm.request_received = true →
        Answered (begin_process s timestep_100ns) := begin_process_answered hanswered h
    rw [step, process_eq h.enabled] at hwaiting ⊢
    obtain ⟨hserved, _⟩ := (end_process_keeps_session _).session hwaiting
    obtain ⟨hreceived, _⟩ := (serve_request_keeps_session _ stack).session hserved
    have hsame : serve_request (begin_process s timestep_100ns) stack =
        begin_process s timestep_100ns := by
      rw [serve_request, has_request_of_answered (hbegun hreceived)]
      rfl
    rw [hsame] at hwaiting ⊢
    exact end_process_answered (hbegun hreceived).1 hwaiting
  | loop_process id timestep_100ns =>
    rw [step]
    split
    · rw [Answered, comm, LoopHandler.process_common_main]
      exact hanswered
    · exact hanswered
  | application bytes => exact hanswered

/-- A request that was executed with a final result is never executed again: as long as the
same request is there, no call of `process` executes it. -/
theorem executed_at_most_once {s : System} (h : Reachable s) {e : Event}
    (hconcludes : Concludes s e) {events : List Event}
    (hwaiting : Always step (fun s => s.comm.request_received = true) (step s e) events)
    (later : Event) : ¬ Executes (run step (step s e) events) later := by
  have hready := h.gated.ready
  have hanswered : ∀ s, s.main.Ready → Answered s →
      Always step (fun s => s.comm.request_received = true) s events →
        Answered (run step s events) := by
    clear hwaiting
    induction events with
    | nil => exact fun _ _ hanswered _ => hanswered
    | cons e' events ih =>
      intro s hready hanswered hwaiting
      exact ih _ (step_ready hready e') (step_answered hready hanswered hwaiting.2.head) hwaiting.2
  have hlast := hanswered _ (step_ready hready e)
    (conclude_answered hready hconcludes hwaiting.head) hwaiting
  intro hexecutes
  cases later with
  | process timestep_100ns stack =>
    have hrequest : has_request (begin_process (run step (step s e) events) timestep_100ns) =
        true := hexecutes
    have hreceived := (Bool.and_eq_true_iff.mp hrequest).1
    have hbegun := begin_process_answered hlast
      (run_ready (step_ready hready e) events) hreceived
    rw [has_request_of_answered hbegun] at hrequest
    cases hrequest
  | _ => exact hexecutes

end System

end

section

attribute [local instance] host.platform

/-- The parameters are asked for, and the response is read in two parts. -/
theorem executed_once_while_sent :
    let s := run System.step host.start (host.connect ++ [host.receive (host.frame 2 3 [])])
    ¬ System.Executes (run System.step (System.step s (.process 0 host.stack)) [.pop_data 3])
      (.process 0 host.stack) :=
  System.executed_at_most_once (host.reachable_run _) (by decide +kernel) (by decide +kernel) _

end

end scrutiny
