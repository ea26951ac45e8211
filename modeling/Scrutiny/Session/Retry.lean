import Scrutiny.Comm.Pending
import Scrutiny.Session.Lifecycle

open foundation

namespace scrutiny

open protocol protocol.CommHandler

/-- How far a call moves the time of the main handler. -/
def Event.duration : Event → timediff_t
  | .process timestep_100ns _ => timestep_100ns
  | _ => 0

/-- The time that passes in a run. -/
def elapsed (events : List Event) : Nat := (events.map fun e => e.duration.toNat).sum

theorem elapsed_append (before after : List Event) :
    elapsed (before ++ after) = elapsed before + elapsed after := by
  simp [elapsed]

theorem elapsed_cons (e : Event) (events : List Event) :
    elapsed (e :: events) = e.duration.toNat + elapsed events := rfl

/-- A timeout that expires has really passed, however long ago it was started. -/
theorem Timebase.le_of_has_expired {timebase later : Timebase} {n : Nat}
    (hlater : later.m_time_100ns = timebase.m_time_100ns + BitVec.ofNat 32 n)
    {timeout_100ns : timediff_t}
    (hexpired : later.has_expired timebase.get_timestamp timeout_100ns = true) :
    timeout_100ns.toNat ≤ n := by
  have helapsed : later.elapsed_since timebase.get_timestamp = BitVec.ofNat 32 n := by
    rw [elapsed_since, get_timestamp, hlater]
    bv_omega
  rw [has_expired, helapsed, decide_eq_true_eq, ge_iff_le, BitVec.le_def,
    BitVec.toNat_ofNat] at hexpired
  exact hexpired.trans (Nat.mod_le _ _)

section

variable [Platform]

namespace MainHandler

omit [Platform] in
theorem encode_response_not_again (payload : List uint8_t) (response : Response) :
    (CodecV1_0.encode_response payload response).1 ≠ .ProcessAgain := by
  unfold CodecV1_0.encode_response
  split <;> exact ResponseCode.noConfusion

theorem comm_connect_not_again (self : MainHandler) (request : Request) (response : Response) :
    (self.comm_connect request response).1.1 ≠ .ProcessAgain := by
  unfold comm_connect
  split
  · exact ResponseCode.noConfusion
  · split
    · exact ResponseCode.noConfusion
    · split
      · exact ResponseCode.noConfusion
      · exact encode_response_not_again _ response

/-- A request to connect that is accepted is not to be executed again. -/
theorem executed_code_of_accepts {s : System} (stack : Stack)
    (haccepts : accepts_connect s.comm s.comm.m_active_request = true) :
    executed_code s stack ≠ some .ProcessAgain := by
  have hasks := accepts_connect_asks haccepts
  rw [executed_code_eq]
  simp only [process_command, hasks.1, process_comm_control, hasks.2]
  intro hagain
  exact comm_connect_not_again _ _ _ (Option.some.inj hagain)

/-- A request to be executed again stays there. -/
theorem execute_request_retried {s : System} {stack : Stack}
    (hagain : executed_code s stack = some .ProcessAgain) :
    (execute_request s stack).comm.m_request_received = s.comm.m_request_received := by
  obtain ⟨response, hcomm⟩ := execute_request_comm s stack
  split at hcomm
  · rename_i haccepts
    exact absurd hagain (executed_code_of_accepts stack haccepts)
  · obtain ⟨timestamp, challenge, received, hcomm⟩ := hcomm
    rw [hcomm]

/-- What is done with the request that was executed: it is over, or it is timed. -/
theorem finish_request_cases (s : System) :
    (finish_request s).main.m_processing_request = true ∨
      ResponseCode.cast s.comm.m_active_response.response_code = some .ProcessAgain ∧
        (finish_request s).comm = s.comm ∧
        (finish_request s).main.m_processing_request = false ∧
        (finish_request s).main.m_process_again_timestamp =
          if s.main.m_process_again_timestamp_taken then s.main.m_process_again_timestamp
          else s.main.m_timebase.get_timestamp := by
  by_cases hagain : ResponseCode.cast s.comm.m_active_response.response_code = some .ProcessAgain
  · unfold finish_request
    rw [hagain]
    simp only
    split
    · rename_i htaken
      refine .inr ⟨trivial, rfl, rfl, ?_⟩
      rw [htaken]
      rfl
    · rename_i htaken
      split
      · exact .inl rfl
      · refine .inr ⟨trivial, rfl, rfl, ?_⟩
        rw [Bool.eq_true_of_not_eq_false htaken]
        rfl
  · exact .inl (finish_request_processing (.inl hagain))

theorem check_finished_sending_taken {self : MainHandler}
    (hprocessing : self.m_processing_request = true) :
    self.check_finished_sending.m_processing_request = true ∨
      self.check_finished_sending.m_process_again_timestamp_taken = false := by
  unfold check_finished_sending
  rw [if_pos hprocessing]
  split
  · simp only
    split <;> exact .inr rfl
  · exact .inl hprocessing

theorem check_finished_sending_idle {self : MainHandler}
    (hidle : self.m_processing_request = false) : self.check_finished_sending = self := by
  rw [check_finished_sending, if_neg (by simp [hidle])]

theorem end_process_taken {s : System} (hprocessing : s.main.m_processing_request = true)
    (htaken : (end_process s).main.m_process_again_timestamp_taken = true) :
    (end_process s).main.m_processing_request = true := by
  rw [end_process_main] at htaken ⊢
  rcases check_finished_sending_taken hprocessing with hlater | hdropped
  · exact hlater
  · cases hdropped.symm.trans htaken

theorem end_process_idle {s : System} (hidle : s.main.m_processing_request = false) :
    (end_process s).main = { s.main with m_datalogging := (end_process s).main.m_datalogging } := by
  have hmain := end_process_main s
  rw [check_finished_sending_idle hidle] at hmain
  exact hmain

theorem check_finished_sending_timebase (self : MainHandler) :
    self.check_finished_sending.m_timebase = self.m_timebase := by
  unfold check_finished_sending
  simp only
  repeat' split
  all_goals rfl

theorem serve_request_timebase (s : System) (stack : Stack) :
    (serve_request s stack).main.m_timebase = s.main.m_timebase := by
  have hframe := (execute_request_frame s stack).main
  unfold serve_request
  split
  · cases hfinal : final_response (execute_request s stack) with
    | none =>
      obtain ⟨timestamp, processing, taken, hfinish⟩ := finish_request_none hfinal
      rw [hfinish, hframe]
    | some response =>
      rw [finish_request_some hfinal]
      change (execute_request s stack).main.m_timebase = s.main.m_timebase
      rw [hframe]
  · rfl

end MainHandler

namespace System

open MainHandler

/-- The call of `process` executes a request that is to be executed again. -/
def Retries (s : System) : Event → Prop
  | .process timestep_100ns stack => has_request (begin_process s timestep_100ns) = true ∧
      executed_code (begin_process s timestep_100ns) stack = some .ProcessAgain
  | _ => False

/-- The call of `process` executes a request that is to be executed again, and answers it
instead. -/
def GivesUp (s : System) : Event → Prop
  | .process timestep_100ns stack => Retries s (.process timestep_100ns stack) ∧
      (answer s timestep_100ns stack).isSome = true
  | _ => False

instance (s : System) (e : Event) : Decidable (Retries s e) :=
  match e with
  | .process timestep_100ns stack => inferInstanceAs (Decidable
    (has_request (begin_process s timestep_100ns) = true ∧
      executed_code (begin_process s timestep_100ns) stack = some .ProcessAgain))
  | .receive_data _ _ | .pop_data _ | .loop_process _ _ | .application _ =>
    inferInstanceAs (Decidable False)

instance (s : System) (e : Event) : Decidable (GivesUp s e) :=
  match e with
  | .process timestep_100ns stack => inferInstanceAs (Decidable
    (Retries s (.process timestep_100ns stack) ∧ (answer s timestep_100ns stack).isSome = true))
  | .receive_data _ _ | .pop_data _ | .loop_process _ _ | .application _ =>
    inferInstanceAs (Decidable False)

/-- A request that is being retried is not dropped: its session goes on, and no bytes come
in too late. -/
def KeepsRetried (s : System) (e : Event) : Prop :=
  s.main.m_process_again_timestamp_taken = true → s.main.m_processing_request = false →
    on_time s e ∧ ¬ Expires s e

instance (s : System) (e : Event) : Decidable (KeepsRetried s e) :=
  inferInstanceAs (Decidable (_ → _ → _))

/-- How a request came to be timed. -/
inductive Timed (s : System) (e : Event) : Prop
  | started (hretries : Retries s e)
      (htimestamp : (step s e).main.m_process_again_timestamp =
        (step s e).main.m_timebase.get_timestamp)
  | goes_on (htaken : s.main.m_process_again_timestamp_taken = true)
      (hidle : s.main.m_processing_request = false)
      (htimestamp : (step s e).main.m_process_again_timestamp = s.main.m_process_again_timestamp)

/-- The time only moves in the calls of `process`. -/
theorem step_timebase {s : System} (h : s.main.Ready) (e : Event) :
    (step s e).main.m_timebase = s.main.m_timebase.step e.duration := by
  have hnow (timebase : Timebase) : timebase.step 0 = timebase :=
    congrArg Timebase.mk (BitVec.add_zero timebase.m_time_100ns)
  cases e with
  | receive_data data len => exact (hnow _).symm
  | pop_data len =>
    exact (check_finished_sending_timebase _).trans (hnow s.main.m_timebase).symm
  | process timestep_100ns stack =>
    rw [step, process_eq h.enabled, end_process_main]
    refine (check_finished_sending_timebase _).trans ((serve_request_timebase _ stack).trans ?_)
    rw [begin_process_main]
    rfl
  | loop_process id timestep_100ns =>
    obtain ⟨m_datalogging, hmain⟩ := loop_process_main s id timestep_100ns
    rw [hmain]
    exact (hnow _).symm
  | application bytes => exact (hnow _).symm

theorem process_timed {s : System} (h : s.main.Ready)
    (hwaits : s.main.m_process_again_timestamp_taken = true →
      s.main.m_processing_request = false → s.comm.request_received = true)
    {timestep_100ns : timediff_t} {stack : Stack}
    (hkeeps : KeepsRetried s (.process timestep_100ns stack))
    (htaken : (step s (.process timestep_100ns stack)).main.m_process_again_timestamp_taken =
      true)
    (hidle : (step s (.process timestep_100ns stack)).main.m_processing_request = false) :
    (step s (.process timestep_100ns stack)).comm.request_received = true ∧
      Timed s (.process timestep_100ns stack) := by
  have hstep : step s (.process timestep_100ns stack) =
      end_process (serve_request (begin_process s timestep_100ns) stack) :=
    process_eq h.enabled timestep_100ns stack
  have hbegun := begin_process_main s timestep_100ns
  rw [hstep] at htaken hidle ⊢
  -- a request that is done with leaves with the time it was given
  have hserved : (serve_request (begin_process s timestep_100ns) stack).main.m_processing_request =
      false := by
    by_contra hdone
    cases hidle.symm.trans (end_process_taken (Bool.eq_true_of_not_eq_false hdone) htaken)
  have hend := end_process_idle hserved
  have hcomm : (end_process (serve_request (begin_process s timestep_100ns) stack)).comm =
      (serve_request (begin_process s timestep_100ns) stack).comm := by
    rw [comm, hend]
    rfl
  rw [hend] at htaken
  by_cases hrequest : has_request (begin_process s timestep_100ns) = true
  · have hexecuted : serve_request (begin_process s timestep_100ns) stack =
        finish_request (execute_request (begin_process s timestep_100ns) stack) := if_pos hrequest
    have hframe := (execute_request_frame (begin_process s timestep_100ns) stack).main
    rw [hexecuted] at hserved hcomm hend htaken ⊢
    rcases finish_request_cases (execute_request (begin_process s timestep_100ns) stack) with
      hdone | ⟨hagain, hsame, _, htimestamp⟩
    · cases hserved.symm.trans hdone
    · have hreceived : (end_process (finish_request (execute_request
          (begin_process s timestep_100ns) stack))).comm.request_received = true := by
        rw [hcomm, hsame, request_received, execute_request_retried hagain]
        exact (Bool.and_eq_true_iff.mp hrequest).1
      refine ⟨hreceived, ?_⟩
      have hprocessing : s.main.m_processing_request = false := by
        rw [has_request, begin_process_processing] at hrequest
        simpa using (Bool.and_eq_true_iff.mp hrequest).2
      have htimes : (step s (.process timestep_100ns stack)).main.m_process_again_timestamp =
          if s.main.m_process_again_timestamp_taken then s.main.m_process_again_timestamp
          else (s.main.m_timebase.step timestep_100ns).get_timestamp := by
        rw [hstep, hexecuted, hend]
        refine htimestamp.trans ?_
        rw [hframe, hbegun]
      by_cases hbefore : s.main.m_process_again_timestamp_taken = true
      · rw [if_pos hbefore] at htimes
        exact .goes_on hbefore hprocessing htimes
      · rw [if_neg hbefore] at htimes
        refine .started ⟨hrequest, hagain⟩ (htimes.trans ?_)
        rw [step_timebase h]
        rfl
  · have hskipped : serve_request (begin_process s timestep_100ns) stack =
        begin_process s timestep_100ns := if_neg hrequest
    rw [hskipped] at hserved htaken
    rw [hbegun] at hserved htaken
    have hwaiting := hwaits htaken hserved
    have hexpires := (hkeeps htaken hserved).2
    exfalso
    apply hrequest
    rcases begin_process_session s timestep_100ns stack with hsame | ⟨hexpired, _⟩
    · rw [has_request, hsame, begin_process_processing, hwaiting, hserved]
      rfl
    · exact absurd hexpired hexpires

theorem step_timed {s : System} (h : s.main.Ready)
    (hwaits : s.main.m_process_again_timestamp_taken = true →
      s.main.m_processing_request = false → s.comm.request_received = true)
    {e : Event} (hkeeps : KeepsRetried s e)
    (htaken : (step s e).main.m_process_again_timestamp_taken = true)
    (hidle : (step s e).main.m_processing_request = false) :
    (step s e).comm.request_received = true ∧ Timed s e := by
  cases e with
  | receive_data data len =>
    have hbefore : s.comm.request_received = true := hwaits htaken hidle
    have hsame := receive_data_keeps_pending hbefore ((hkeeps htaken hidle).1 hbefore) data
    refine ⟨?_, .goes_on htaken hidle rfl⟩
    have hpending : s.comm.pending_request.isSome = true := by
      rw [CommHandler.pending_request]
      exact (congrArg Option.isSome (if_pos hbefore)).trans rfl
    rw [← hsame, CommHandler.pending_request] at hpending
    split at hpending
    · assumption
    · cases hpending
  | pop_data len =>
    by_cases hprocessing : s.main.m_processing_request = true
    · have hbefore : (s.set_comm
          (s.comm.pop_data s.main.m_timebase len).1).main.m_processing_request = true := hprocessing
      rcases check_finished_sending_taken hbefore with hlater | hdropped
      · cases hidle.symm.trans hlater
      · cases htaken.symm.trans hdropped
    · have hprocessing := Bool.eq_false_of_not_eq_true hprocessing
      have hstate : s.comm.m_state ≠ .Transmitting := by
        intro htransmitting
        cases hprocessing.symm.trans (h.processing htransmitting)
      have hstep : step s (.pop_data len) = s := by
        change { s.set_comm (s.comm.pop_data s.main.m_timebase len).1 with
          main := (s.set_comm (s.comm.pop_data s.main.m_timebase len).1).main.check_finished_sending }
          = s
        rw [CommHandler.pop_data, if_pos hstate]
        exact congrArg (fun main : MainHandler => { s with main })
          (check_finished_sending_idle hprocessing)
      refine ⟨?_, .goes_on ?_ hprocessing ?_⟩
      · rw [hstep] at htaken ⊢
        exact hwaits htaken hprocessing
      · rw [hstep] at htaken
        exact htaken
      · rw [hstep]
  | process timestep_100ns stack => exact process_timed h hwaits hkeeps htaken hidle
  | loop_process id timestep_100ns =>
    obtain ⟨m_datalogging, hmain⟩ := loop_process_main s id timestep_100ns
    rw [hmain] at htaken hidle
    refine ⟨?_, .goes_on htaken hidle ?_⟩
    · rw [comm, hmain]
      exact hwaits htaken hidle
    · rw [hmain]
  | application bytes => exact ⟨hwaits htaken hidle, .goes_on htaken hidle rfl⟩

theorem run_timebase {s : System} (h : s.main.Ready) (events : List Event) :
    (run step s events).main.m_timebase.m_time_100ns =
      s.main.m_timebase.m_time_100ns + BitVec.ofNat 32 (elapsed events) := by
  induction events generalizing s with
  | nil => simp [elapsed]
  | cons e events ih =>
    rw [run_cons, ih (step_ready h e), step_timebase h, elapsed_cons, Timebase.step]
    simp only
    bv_omega

/-- The same request waits all along: it is always there, and no bytes come in that are too
late to leave it there. -/
def Waits (s : System) (events : List Event) : Prop :=
  Always step (fun s => s.comm.request_received = true) s events ∧ Along step on_time s events

instance (s : System) (events : List Event) : Decidable (Waits s events) :=
  inferInstanceAs (Decidable (_ ∧ _))

/-- Since a request was first to be executed again, it waits and its time runs. -/
def RetriedSince (timestamp : timestamp_t) (s : System) (e : Event) (later : List Event) : Prop :=
  (step s e).main.Ready ∧ Retries s e ∧ Waits (step s e) later ∧
    timestamp = (step s e).main.m_timebase.get_timestamp

/-- The time of the request that waits started when it was first to be executed again. -/
structure TimedFairly (start : System) (events : List Event) (s : System) : Prop where
  ready : s.main.Ready
  waits : s.main.m_process_again_timestamp_taken = true → s.main.m_processing_request = false →
    s.comm.request_received = true
  since : s.main.m_process_again_timestamp_taken = true → s.main.m_processing_request = false →
    Once step (RetriedSince s.main.m_process_again_timestamp) start events

theorem TimedFairly.step {start : System} {events : List Event} {e : Event}
    (h : TimedFairly start events (run System.step start events))
    (hkeeps : KeepsRetried (run System.step start events) e) :
    TimedFairly start (events ++ [e]) (step (run System.step start events) e) := by
  refine ⟨step_ready h.ready e, fun htaken hidle => ?_, fun htaken hidle => ?_⟩
  · exact (step_timed h.ready h.waits hkeeps htaken hidle).1
  · obtain ⟨hreceived, htimed⟩ := step_timed h.ready h.waits hkeeps htaken hidle
    cases htimed with
    | started hretries htimestamp =>
      exact Once.last ⟨step_ready h.ready e, hretries, ⟨hreceived, trivial⟩, htimestamp⟩
    | goes_on hbefore hwaiting htimestamp =>
      refine Once.snoc (h.since hbefore hwaiting) fun s' e' later hlast hsince => ?_
      obtain ⟨hready, hretries, ⟨hwaits, hontime⟩, hstarted⟩ := hsince
      refine ⟨hready, hretries, ⟨hwaits.snoc ?_, Along.append.mpr ⟨hontime, ?_, trivial⟩⟩, ?_⟩
      · rw [hlast]
        exact hreceived
      · rw [hlast]
        exact (hkeeps hbefore hwaiting).1
      · exact htimestamp.trans hstarted

theorem initial_timed_fairly {start : System} (hinitial : Initial start) :
    TimedFairly start [] start := by
  have hidle := (initial_at_start hinitial).process_again_timestamp_taken
  refine ⟨initial_ready hinitial, fun htaken => ?_, fun htaken => ?_⟩
  · cases hidle.symm.trans htaken
  · cases hidle.symm.trans htaken

/-- A request that is given up on was timed, and its time has run out. -/
theorem gives_up_expired {s : System} {timestep_100ns : timediff_t} {stack : Stack}
    (hgives : GivesUp s (.process timestep_100ns stack)) :
    s.main.m_process_again_timestamp_taken = true ∧ s.main.m_processing_request = false ∧
      (s.main.m_timebase.step timestep_100ns).has_expired s.main.m_process_again_timestamp
        (Platform.request_max_process_time_us * 10) = true := by
  obtain ⟨⟨hrequest, hagain⟩, hanswer⟩ := hgives
  have hframe := (execute_request_frame (begin_process s timestep_100ns) stack).main
  have hbegun := begin_process_main s timestep_100ns
  have hidle : s.main.m_processing_request = false := by
    rw [has_request, begin_process_processing] at hrequest
    simpa using (Bool.and_eq_true_iff.mp hrequest).2
  have hfinal : answer s timestep_100ns stack =
      final_response (execute_request (begin_process s timestep_100ns) stack) := if_pos hrequest
  rw [executed_code] at hagain
  rw [hfinal, final_response] at hanswer
  simp only [hagain] at hanswer
  split at hanswer
  · rename_i hexpired
    rw [hframe, hbegun] at hexpired
    obtain ⟨htaken, hexpired⟩ := Bool.and_eq_true_iff.mp hexpired
    exact ⟨htaken, hidle, hexpired⟩
  · cases hanswer

/-- When a request is given up on, the same request was first to be executed again at least
the maximal processing time before, in every run in which no request that is being retried
is dropped. -/
theorem full_processing_time {start : System} (hinitial : Initial start) {events : List Event}
    (hkeeps : Along step KeepsRetried start events) {e : Event}
    (hgives : GivesUp (run step start events) e) :
    Once step (fun s' e' later => Retries s' e' ∧ Waits (step s' e') later ∧
      (Platform.request_max_process_time_us * 10).toNat ≤ elapsed (later ++ [e])) start events := by
  have hfair : TimedFairly start events (run step start events) :=
    run_invariant_past (initial_timed_fairly hinitial)
      (fun _ _ h hkeeps => TimedFairly.step h hkeeps) hkeeps
  cases e with
  | process timestep_100ns stack =>
    obtain ⟨htaken, hidle, hexpired⟩ := gives_up_expired hgives
    refine Once.mono (fun s' e' later hlast hsince => ?_) (hfair.since htaken hidle)
    obtain ⟨hready, hretries, hwaits, hstarted⟩ := hsince
    refine ⟨hretries, hwaits, ?_⟩
    rw [hstarted] at hexpired
    refine Timebase.le_of_has_expired ?_ hexpired
    have htime := run_timebase hready later
    rw [hlast] at htime
    have hlength : elapsed (later ++ [.process timestep_100ns stack]) =
        elapsed later + timestep_100ns.toNat := by
      rw [elapsed_append]
      simp [elapsed, Event.duration]
    rw [hlength, Timebase.step, htime]
    simp only
    bv_omega
  | _ => exact hgives.elim

end System

end

section

attribute [local instance] host.platform

/-- The datalogger of a loop is to be reset, and the loop does not release it. -/
def retried_reset : List Event :=
  host.connect ++ host.configure 0 0 ++
    [.loop_process 0 0, .process 0 host.stack, host.receive (host.frame 5 8 []),
      .process 0 host.stack]

theorem full_processing_time_of_reset :
    Once System.step (fun s e later => System.Retries s e ∧ System.Waits (System.step s e) later ∧
      (1000000 : uint32_t).toNat ≤ elapsed (later ++ [.process 1000000 host.stack])) host.start
      retried_reset :=
  System.full_processing_time host.initial_start (by decide +kernel) (by decide +kernel)

/-- Another request takes the place of the reset when the reception timeout has run out. -/
def retry_inherited : List Event :=
  retried_reset ++ [.process 500000 host.stack,
    host.receive (host.frame 5 2 (host.configuration 0 0))]

theorem processing_time_inherited :
    ¬ ∀ s events e, System.Initial s → System.GivesUp (run System.step s events) e →
      Once System.step (fun s e' later => System.Retries s e' ∧
        System.Waits (System.step s e') later ∧
          (1000000 : uint32_t).toNat ≤ elapsed (later ++ [e])) s events := by
  intro htime
  have hrun := htime host.start retry_inherited (.process 500000 host.stack) host.initial_start
    (by decide +kernel)
  revert hrun
  decide +kernel

end

end scrutiny
