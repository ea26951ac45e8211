import Scrutiny.Ownership.Reports
import Scrutiny.Ownership.Single
import Scrutiny.Foundation.Past

open foundation

namespace scrutiny

open datalogging protocol

section

variable [Platform]

open MainHandler LoopHandler

namespace ThreadSafeData

/-- The counters as they are outside of the Triggered state. -/
def AtZero (self : ThreadSafeData) : Prop :=
  self.bytes_to_acquire_from_trigger_to_completion = 0 ∧ self.write_counter_since_trigger = 0

instance (self : ThreadSafeData) : Decidable self.AtZero := inferInstanceAs (Decidable (_ ∧ _))

end ThreadSafeData

namespace MainHandler

/-- The requests read the main handler's copy of the state, and do not write it. -/
theorem configure_datalog_threadsafe (self : MainHandler) (loops : LoopId → LoopHandler)
    (request : Request) : (self.configure_datalog loops request).2.threadsafe_data =
      self.m_datalogging.threadsafe_data := by
  cases howner : self.m_datalogging.owner with
  | some a =>
    rw [configure_datalog_of_owner howner]
    unfold request_release
    split <;> rfl
  | none =>
    rw [configure_datalog_of_free howner]
    obtain ⟨_, new_owner, hresult, _⟩ := self.configure_datalogger_spec loops request
      { self.m_datalogging with reading_in_progress := false }
    unfold reset_on_failure
    split <;> rw [hresult]

theorem send_commands_threadsafe (s : System) (id : LoopId) :
    (send_commands s id).datalogging.threadsafe_data = s.datalogging.threadsafe_data := by
  unfold send_commands
  simp only
  repeat' split
  all_goals rfl

theorem serve_request_threadsafe (s : System) (stack : Stack) :
    (serve_request s stack).datalogging.threadsafe_data = s.datalogging.threadsafe_data := by
  obtain ⟨response, hdatalogging⟩ := serve_request_datalogging s stack
  rw [hdatalogging]
  cases served s with
  | none => rfl
  | some subfunction =>
    cases subfunction with
    | ConfigureDatalog => exact configure_datalog_threadsafe _ _ _
    | ArmTrigger =>
      unfold arm_trigger
      simp only
      split <;> rfl
    | DisarmTrigger =>
      unfold disarm_trigger
      simp only
      split <;> rfl
    | ReadAcquisition =>
      unfold read_acquisition start_reading
      simp only
      repeat' split
      all_goals rfl
    | ResetDatalogger =>
      unfold reset_datalogger request_release
      simp only
      repeat' split
      all_goals rfl
    | GetSetup | GetStatus | GetAcquisitionMetadata => rfl

end MainHandler

namespace System

def threadsafe_data (s : System) : ThreadSafeData := s.datalogging.threadsafe_data

/-- A loop that released the datalogger last reported counters of 0. -/
def CleanReleases (s : System) : Prop :=
  ∀ i < s.loop_count, s.loop2main i = some .DATALOGGER_OWNERSHIP_RELEASED →
    s.datalogging.error = .NoError → s.datalogging.owner = some i → s.threadsafe_data.AtZero

instance (s : System) : Decidable s.CleanReleases :=
  inferInstanceAs (Decidable (∀ i < s.loop_count, _))

/-- What a status request answers with. -/
structure StatusKept (s : System) : Prop where
  reporting : Reporting s
  status : s.threadsafe_data.datalogger_state ≠ .Triggered → s.threadsafe_data.AtZero
  free : s.datalogging.error = .NoError → s.datalogging.owner = none → s.threadsafe_data.AtZero

namespace StatusKept

variable {s : System}

theorem frame (h : StatusKept s) {s' : System} (hframe : DataloggingFrame s s') :
    StatusKept s' := by
  have hdata : s'.threadsafe_data = s.threadsafe_data :=
    congrArg Datalogging.threadsafe_data hframe.datalogging
  refine ⟨h.reporting.frame hframe, ?_, ?_⟩
  · rw [hdata]
    exact h.status
  · rw [hdata, hframe.datalogging]
    exact h.free

/-- The counters are 0 when the owner releases the datalogger, and only the owner
reports others. -/
theorem process_loop (h : StatusKept s) (hclean : s.CleanReleases) {id : LoopId}
    (hid : id < s.loop_count) :
    StatusKept (MainHandler.process_loop s id) ∧ (MainHandler.process_loop s id).CleanReleases := by
  cases hmsg : s.loop2main id with
  | none =>
    rw [process_loop_of_empty hmsg]
    exact ⟨h, hclean⟩
  | some msg =>
    have hcount := (process_loop_frame s id).loop_count
    have hreporting := h.reporting.process_loop hid
    have howner := Reporting.process_loop_owner s hmsg
    have hdata : (MainHandler.process_loop s id).threadsafe_data =
        (process_datalogging_loop_msg s.datalogging id msg).threadsafe_data := by
      rw [process_loop_of_message hmsg]
      rfl
    have hother {i : LoopId} (hslot : (MainHandler.process_loop s id).loop2main i =
        some .DATALOGGER_OWNERSHIP_RELEASED) :
        i ≠ id ∧ s.loop2main i = some .DATALOGGER_OWNERSHIP_RELEASED := by
      rw [process_loop_loop2main] at hslot
      split at hslot
      · cases hslot
      · rename_i hne
        exact ⟨hne, hslot⟩
    cases msg with
    | DATALOGGER_OWNERSHIP_TAKEN =>
      refine ⟨⟨hreporting, ?_, fun herror hfree => ?_⟩, fun i hi hslot herror hkept => ?_⟩
      · rw [hdata]
        exact h.status
      · cases hfree.symm.trans (howner herror).2.2
      · exact absurd (Option.some.inj (hkept.symm.trans (howner herror).2.2)) (hother hslot).1
    | DATALOGGER_OWNERSHIP_RELEASED =>
      refine ⟨⟨hreporting, ?_, fun herror _ => ?_⟩, fun i hi hslot herror hkept => ?_⟩
      · rw [hdata]
        exact h.status
      · rw [hdata]
        obtain ⟨hbefore, howned, _⟩ := howner herror
        exact hclean id hid hmsg hbefore howned
      · cases hkept.symm.trans (howner herror).2.2
    | DATALOGGER_DATA_ACQUIRED =>
      refine ⟨⟨hreporting, ?_, fun herror hfree => ?_⟩, fun i hi hslot herror hkept => ?_⟩
      · rw [hdata]
        exact h.status
      · rw [hdata]
        exact h.free (howner herror).1 ((howner herror).2.symm.trans hfree)
      · rw [hdata]
        exact hclean i (hcount ▸ hi) (hother hslot).2 (howner herror).1
          ((howner herror).2.symm.trans hkept)
    | DATALOGGER_STATUS_UPDATE update =>
      have hreports (herror : (MainHandler.process_loop s id).datalogging.error = .NoError) :
          s.datalogging.owner = some id :=
        h.reporting.reports (howner herror).1 id hid _ hmsg rfl
      refine ⟨⟨hreporting, ?_, fun herror hfree => ?_⟩, fun i hi hslot herror hkept => ?_⟩
      · rw [hdata]
        exact h.reporting.updates id hid update hmsg
      · cases (hreports herror).symm.trans ((howner herror).2.symm.trans hfree)
      · have hkept' := (howner herror).2.symm.trans hkept
        exact absurd (Option.some.inj (hkept'.symm.trans (hreports herror))) (hother hslot).1

theorem process_datalogging_logic (h : StatusKept s) :
    StatusKept (MainHandler.process_datalogging_logic s) := by
  have hreporting := h.reporting.process_datalogging_logic
  obtain ⟨howner, herror⟩ := process_datalogging_logic_owner s
  by_cases hnone : s.datalogging.error = .NoError
  · cases hfree : s.datalogging.owner with
    | none =>
      have hzero := h.free hnone hfree
      have hdata : (MainHandler.process_datalogging_logic s).threadsafe_data.AtZero := by
        rw [System.threadsafe_data, process_datalogging_logic_of_free hnone hfree,
          (offer_ownership_spec s).1]
        exact hzero
      exact ⟨hreporting, fun _ => hdata, fun _ _ => hdata⟩
    | some a =>
      have hdata : (MainHandler.process_datalogging_logic s).threadsafe_data =
          s.threadsafe_data := by
        rw [System.threadsafe_data, process_datalogging_logic_of_owner hnone hfree]
        exact send_commands_threadsafe s a
      refine ⟨hreporting, by rw [hdata]; exact h.status, fun _ hlater => ?_⟩
      cases hfree.symm.trans (howner.symm.trans hlater)
  · rw [process_datalogging_logic_of_error hnone]
    exact h

theorem serve_request (h : StatusKept s) (stack : Stack) :
    StatusKept (MainHandler.serve_request s stack) := by
  obtain ⟨howner, herror, _, _⟩ := serve_request_ownership s stack
  have hdata : (MainHandler.serve_request s stack).threadsafe_data = s.threadsafe_data :=
    serve_request_threadsafe s stack
  refine ⟨h.reporting.serve_request stack, ?_, ?_⟩
  · rw [hdata]
    exact h.status
  · rw [hdata, howner, herror]
    exact h.free

theorem process_common (h : StatusKept s) {id : LoopId} (hid : id < s.loop_count)
    (timestep_100ns : timediff_t) :
    StatusKept (LoopHandler.process_common s id timestep_100ns) := by
  have hdatalogging := process_common_datalogging s id timestep_100ns
  have hdata : (LoopHandler.process_common s id timestep_100ns).threadsafe_data =
      s.threadsafe_data := by
    rw [System.threadsafe_data, hdatalogging]
    rfl
  refine ⟨h.reporting.process_common hid timestep_100ns, ?_, ?_⟩
  · rw [hdata]
    exact h.status
  · rw [hdata, hdatalogging]
    exact h.free

theorem exchange (h : StatusKept s) (hclean : s.CleanReleases) :
    StatusKept (MainHandler.process_datalogging_logic (MainHandler.process_loops s)) := by
  have hturn (s : System) (id : LoopId) (hid : id < s.loop_count)
      (hinv : StatusKept s ∧ s.CleanReleases) : StatusKept (MainHandler.process_loop s id) ∧
        (MainHandler.process_loop s id).CleanReleases :=
    hinv.1.process_loop hinv.2 hid
  exact (process_loops_induction hturn ⟨h, hclean⟩).1.process_datalogging_logic

theorem begin_process (h : StatusKept s) (hclean : s.CleanReleases)
    (timestep_100ns : timediff_t) : StatusKept (MainHandler.begin_process s timestep_100ns) :=
  (h.frame (ticked_frame s timestep_100ns)).exchange hclean

theorem end_process (h : StatusKept s) (hsilent : ∀ i < s.loop_count, s.loop2main i = none) :
    StatusKept (MainHandler.end_process s) := by
  have hframe := finished_frame s
  refine (h.frame hframe).exchange fun i hi hslot => ?_
  rw [hframe.loop2main, hsilent i (hframe.loop_count ▸ hi)] at hslot
  cases hslot

end StatusKept

/-- A status request that is executed in the call is answered with counters of 0, unless
the state it is answered with is Triggered. -/
def AnswersCoherent (s : System) : Event → Prop
  | .process timestep_100ns _ =>
    let s := MainHandler.begin_process s timestep_100ns
    served s = some .GetStatus → (datalog_status s.datalogging).state ≠ DataLogger.State.Triggered.code →
      (datalog_status s.datalogging).bytes_to_acquire_from_trigger_to_completion = 0 ∧
        (datalog_status s.datalogging).write_counter_since_trigger = 0
  | _ => True

/-- When the main handler is to take note of the release of the datalogger, the counters
that it was last told are 0. -/
def ReleasedAtZero (s : System) : Event → Prop
  | .process _ _ => s.CleanReleases
  | _ => True

instance (s : System) (e : Event) : Decidable (ReleasedAtZero s e) :=
  match e with
  | .process _ _ => inferInstanceAs (Decidable s.CleanReleases)
  | .receive_data _ _ | .pop_data _ | .loop_process _ _ | .application _ =>
    inferInstanceAs (Decidable True)

theorem StatusKept.answers_coherent {s : System} (h : StatusKept s) {e : Event}
    (hclean : ReleasedAtZero s e) : AnswersCoherent s e := by
  cases e with
  | process timestep_100ns stack =>
    intro _ hstate
    have hbegun := h.begin_process hclean timestep_100ns
    obtain ⟨hbytes, hwrites⟩ := hbegun.status fun htriggered =>
      hstate (congrArg DataLogger.State.code htriggered)
    exact ⟨congrArg (BitVec.ofNat 32) hbytes, congrArg (BitVec.ofNat 32) hwrites⟩
  | receive_data | pop_data | loop_process | application => trivial

theorem StatusKept.step {s : System} (hready : s.main.Ready) (h : StatusKept s) {e : Event}
    (hclean : ReleasedAtZero s e) : StatusKept (System.step s e) := by
  cases e with
  | receive_data data len => exact h.frame ⟨rfl, rfl, rfl⟩
  | pop_data len =>
    have hpopped : StatusKept (s.set_comm (s.comm.pop_data s.main.m_timebase len).1) :=
      h.frame ⟨rfl, rfl, rfl⟩
    exact hpopped.frame (finished_frame _)
  | process timestep_100ns stack =>
    rw [System.step, process_eq hready.enabled]
    refine ((h.begin_process hclean timestep_100ns).serve_request stack).end_process ?_
    intro i hi
    rw [serve_request_loop_count] at hi
    rw [serve_request_loop2main, begin_process_loop2main,
      if_pos (begin_process_loop_count s timestep_100ns ▸ hi)]
  | loop_process id timestep_100ns =>
    rw [System.step]
    split
    · rename_i hid
      exact h.process_common hid timestep_100ns
    · exact h
  | application bytes => exact h.frame ⟨rfl, rfl, rfl⟩

theorem initial_threadsafe {s : System} (hinitial : Initial s) : s.threadsafe_data.AtZero := by
  obtain ⟨before, m_config, hinit⟩ := hinitial
  unfold MainHandler.init at hinit
  simp only at hinit
  split at hinit
  · simp at hinit
  · split at hinit
    · simp at hinit
    · simp only [Prod.mk.injEq, true_and] at hinit
      subst hinit
      exact ⟨rfl, rfl⟩

theorem initial_status {s : System} (hinitial : Initial s) : StatusKept s := by
  have htracks := initial_tracks hinitial
  have hzero := initial_threadsafe hinitial
  have hempty {i : LoopId} (hi : i < s.loop_count) {msg : Loop2MainMessage}
      (hslot : s.loop2main i = some msg) : False := by
    cases hslot.symm.trans (htracks.loop2main i hi)
  refine ⟨⟨fun i hi update hslot => (hempty hi hslot).elim, fun _ i _ howner => ?_,
    fun _ i hi msg hslot => (hempty hi hslot).elim, fun i hi hslot => (hempty hi hslot).elim⟩,
    fun _ => hzero, fun _ _ => hzero⟩
  cases howner.symm.trans htracks.datalogger_owner

/-- In every run of an initialized handler in which the datalogger is released with
counters of 0, the counters of a status are 0 in all states but Triggered. -/
theorem status_coherent {s : System} (hinitial : Initial s) {events : List Event}
    (hclean : Along step ReleasedAtZero s events) : Along step AnswersCoherent s events := by
  have hstep (s : System) (e : Event) (h : s.main.Ready ∧ StatusKept s)
      (hclean : ReleasedAtZero s e) : (step s e).main.Ready ∧ StatusKept (step s e) :=
    ⟨step_ready h.1 e, h.2.step h.1 hclean⟩
  have hgives (s : System) (e : Event) (h : s.main.Ready ∧ StatusKept s)
      (hclean : ReleasedAtZero s e) : AnswersCoherent s e :=
    h.2.answers_coherent hclean
  exact Along.of_invariant hstep hgives ⟨initial_ready hinitial, initial_status hinitial⟩ hclean

end System

end

section

attribute [local instance] host.platform

/-- The datalogger is configured for a loop, armed, and triggers at once. -/
def triggered : List Event :=
  host.connect ++ host.configure 0 128 ++ [.loop_process 0 0, .process 0 host.stack] ++
    host.exchange 5 3 [] ++ [.loop_process 0 0, .process 0 host.stack]

theorem status_coherent_while_triggered :
    Along System.step System.AnswersCoherent host.start (triggered ++ host.exchange 5 5 []) :=
  System.status_coherent host.initial_start (by decide +kernel)

/-- The datalogger is reset, and its status is asked for. -/
def status_after_reset : List Event :=
  [host.receive (host.frame 5 8 []), .process 0 host.stack, .loop_process 0 0,
    .process 0 host.stack, .pop_data 0xFFFF, host.receive (host.frame 5 5 [])]

/-- The state is Idle, and the counters are those of the acquisition that was given up. -/
theorem status_incoherent_after_reset :
    ¬ ∀ s events, System.Initial s → Along System.step System.AnswersCoherent s events := by
  intro hcoherent
  have hrun := hcoherent host.start (triggered ++ status_after_reset ++ [.process 0 host.stack])
    host.initial_start
  obtain ⟨hlast, _⟩ := (Along.append.mp hrun).2
  have hzero := (hlast (by decide +kernel) (by decide +kernel)).1
  revert hzero
  decide +kernel

end

end scrutiny
