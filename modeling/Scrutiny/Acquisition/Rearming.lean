import Scrutiny.Acquisition.ReadSession
import Scrutiny.Datalogging.Position

open foundation

namespace scrutiny

open datalogging protocol

section

variable [Platform]

open MainHandler LoopHandler

namespace datalogging.DataLogger

variable {d : DataLogger}

/-- The trigger fires in the call, and leaves nothing to write. -/
def completes_at_once (self : DataLogger) (handler : Config) (timebases : LoopId → Timebase)
    (memory : Memory) : Bool :=
  let (self, memory) := self.process_acquisition handler timebases memory
  let ((triggered, self), _) := self.check_trigger handler timebases memory
  triggered && decide ((self.stamp_trigger_point timebases).m_remaining_data_to_write = 0)

/-- An acquisition that starts is over when there is nothing to write. -/
theorem stamped_completed (d : DataLogger) (timebases : LoopId → Timebase) :
    { d.stamp_trigger_point timebases with m_state := .Triggered }.acquisition_completed timebases =
      decide ((d.stamp_trigger_point timebases).m_remaining_data_to_write = 0) := by
  let triggered := { d.stamp_trigger_point timebases with m_state := .Triggered }
  have hwritten : triggered.m_encoder.get_data_write_counter = 0 := by
    change buffer_size (0 * _) = 0
    rw [Nat.zero_mul]
    exact Nat.zero_mod _
  have hin_time : (decide (triggered.m_config.timeout_100ns > 0) &&
      (triggered.timebase timebases).has_expired triggered.m_trigger_timestamp
        triggered.m_config.timeout_100ns) = false := by
    rw [Bool.and_eq_false_imp, decide_eq_true_eq]
    exact fun hpos => has_expired_now (d.timebase timebases) hpos
  change triggered.acquisition_completed timebases = _
  rw [acquisition_completed, if_neg (by simp [triggered]), if_pos rfl, hin_time, hwritten,
    Bool.false_or]
  exact decide_eq_decide.mpr Nat.le_zero

theorem process_trigger_fires (harmed : d.m_state = .Armed) {handler : Config}
    {timebases : LoopId → Timebase} {memory : Memory}
    (hfires : (d.check_trigger handler timebases memory).1.1 = true) :
    (d.process_trigger handler timebases memory).1 =
      { (d.check_trigger handler timebases memory).1.2.stamp_trigger_point timebases with
        m_state := .Triggered } := by
  simp only [process_trigger, if_pos harmed, hfires, if_true]

theorem process_trigger_waits (harmed : d.m_state = .Armed) {handler : Config}
    {timebases : LoopId → Timebase} {memory : Memory}
    (hwaits : (d.check_trigger handler timebases memory).1.1 = false) :
    (d.process_trigger handler timebases memory).1.m_state = .Armed := by
  obtain ⟨m_trigger, ops_data, m_manual_trigger, hchecked⟩ :=
    d.check_trigger_frame handler timebases memory
  simp only [process_trigger, if_pos harmed, hwaits, Bool.false_eq_true, if_false]
  rw [hchecked]
  exact harmed

/-- The trigger of a datalogger that is armed fires, and the acquisition ends, in one call. -/
theorem process_completes_iff (harmed : d.m_state = .Armed) (handler : Config)
    (timebases : LoopId → Timebase) (memory : Memory) :
    (d.process handler timebases memory).1.m_state = .AcquisitionCompleted ↔
      d.m_encoder.error = false ∧ d.completes_at_once handler timebases memory = true := by
  cases herror : d.m_encoder.error with
  | true =>
    rw [process_error (by rw [harmed]; rfl) herror]
    exact iff_of_false State.noConfusion fun h => Bool.noConfusion h.1
  | false =>
    rw [process_active (by rw [harmed]; rfl) herror]
    have hsampled := (d.process_acquisition_runs handler timebases memory).2.trans harmed
    unfold completes_at_once
    simp only
    generalize (d.process_acquisition handler timebases memory).2 = memory'
    generalize (d.process_acquisition handler timebases memory).1 = sampled at hsampled ⊢
    cases hfires : (sampled.check_trigger handler timebases memory').1.1 with
    | true =>
      rw [process_trigger_fires hsampled hfires, Bool.true_and, ← stamped_completed,
        process_completion]
      split
      · rename_i hover
        exact iff_of_true rfl ⟨trivial, hover.2⟩
      · rename_i hlater
        exact iff_of_false State.noConfusion fun h => hlater ⟨rfl, h.2⟩
    | false =>
      have hwaits := process_trigger_waits hsampled hfires
      rw [process_completion, hwaits, if_neg fun h => State.noConfusion h.1, hwaits]
      exact iff_of_false State.noConfusion fun h => Bool.noConfusion h.2

/-- A datalogger that is not armed on demand has nothing to run. -/
theorem process_unarmed (hunarmed : d.arm_trigger.m_state ≠ .Armed) (handler : Config)
    (timebases : LoopId → Timebase) (memory : Memory) :
    (d.arm_trigger.process handler timebases memory).1.m_state ≠ .AcquisitionCompleted := by
  have hother : ¬(d.m_state = .Configured ∨ d.m_state = .AcquisitionCompleted ∨
      d.m_state = .Triggered) := by
    intro harms
    rw [arm_trigger, if_pos harms] at hunarmed
    exact hunarmed rfl
  have hsame : d.arm_trigger = d := by rw [arm_trigger, if_neg hother]
  rw [hsame] at hunarmed ⊢
  have hinactive : d.m_state.active = false := by
    cases hstate : d.m_state with
    | Configured => exact absurd (.inl hstate) hother
    | Armed => exact absurd hstate hunarmed
    | Triggered => exact absurd (.inr (.inr hstate)) hother
    | Idle => rfl
    | AcquisitionCompleted => rfl
    | Error => rfl
  rw [process_inactive hinactive]
  exact fun hcompleted => hother (.inr (.inl hcompleted))

end datalogging.DataLogger

namespace System

/-- In a session, the datalogger is not armed by a loop when its trigger fires in the same call
and leaves nothing to write, and no loop takes it while it logs. -/
def KeepsAcquisition (s : System) : Event → Prop
  | .loop_process id timestep_100ns => s.datalogging.reading_in_progress = true →
      (s.datalogger.m_owner = some id → received s id = some .DATALOGGER_ARM_TRIGGER →
        s.datalogger.arm_trigger.m_state = .Armed → s.datalogger.m_encoder.error = false →
        s.datalogger.arm_trigger.completes_at_once s.main.m_config
          (timebases (informed s id timestep_100ns)) s.memory = false) ∧
      (received s id = some .TAKE_DATALOGGER_OWNERSHIP → s.datalogger.m_state ≠ .Configured)
  | .receive_data _ _ | .pop_data _ | .process _ _ | .application _ => True

instance (s : System) (e : Event) : Decidable (KeepsAcquisition s e) :=
  match e with
  | .loop_process id timestep_100ns => inferInstanceAs (Decidable
    (s.datalogging.reading_in_progress = true →
      (s.datalogger.m_owner = some id → received s id = some .DATALOGGER_ARM_TRIGGER →
        s.datalogger.arm_trigger.m_state = .Armed → s.datalogger.m_encoder.error = false →
        s.datalogger.arm_trigger.completes_at_once s.main.m_config
          (timebases (informed s id timestep_100ns)) s.memory = false) ∧
      (received s id = some .TAKE_DATALOGGER_OWNERSHIP → s.datalogger.m_state ≠ .Configured)))
  | .receive_data _ _ | .pop_data _ | .process _ _ | .application _ =>
    inferInstanceAs (Decidable True)

variable {s : System}

theorem KeepsAcquisition.respects {e : Event} (h : KeepsAcquisition s e) :
    RespectsSession s e := by
  cases e with
  | receive_data data len => trivial
  | pop_data len => trivial
  | process timestep_100ns stack => trivial
  | application bytes => trivial
  | loop_process id timestep_100ns =>
    intro hreading
    obtain ⟨harm, htake⟩ := h hreading
    refine ⟨fun howner hreceived hcompleted => ?_, htake⟩
    have howns : (informed s id timestep_100ns).datalogger.m_owner = some id := by
      rw [(informed_spec s id timestep_100ns).1, hreceived]
      exact howner
    have hmine : owns_datalogger id s.datalogger = true := decide_eq_true howner
    have hdatalogger := informed_datalogger s id timestep_100ns
    rw [hreceived] at hdatalogger
    simp only [hmine, if_true] at hdatalogger
    rw [process_common_eq, run_datalogger_of_owner howns, hdatalogger] at hcompleted
    by_cases harmed : s.datalogger.arm_trigger.m_state = .Armed
    · obtain ⟨herror, honce⟩ := (DataLogger.process_completes_iff harmed _ _ _).mp hcompleted
      rw [DataLogger.arm_trigger_encoder] at herror
      have hnot := harm howner hreceived harmed herror
      cases hnot.symm.trans honce
    · exact DataLogger.process_unarmed harmed _ _ _ hcompleted

/-- A session that starts in a call reads one acquisition: any answer that a later call continues it
with has the number of the first one, and up to that call neither the ring nor the cursors of the
encoder change. -/
def ReadsOne (s : System) (e : Event) (events : List Event) : Prop :=
  ∀ (before : List Event) (e' : Event) (after : List Event), events = before ++ e' :: after →
    Along step (fun s e => ¬StartsSession s e) (step s e) before →
    ContinuesSession (run step (step s e) before) e' →
      Always step (fun s' => s'.datalogger.acquisition = (handled s e).datalogger.acquisition)
          (step s e) before ∧
        (handled (run step (step s e) before) e').datalogger.acquisition =
          (handled s e).datalogger.acquisition ∧
        (answered_read (run step (step s e) before) e').map acquisition_id_of =
          (answered_read s e).map acquisition_id_of

/-- A session reads one acquisition in every run in which no acquisition of it is over in the call
that arms the datalogger. -/
theorem session_reads_one (hreachable : Reachable s) {e : Event} (hstart : StartsSession s e)
    {events : List Event} (hkeeps : Along step KeepsAcquisition (step s e) events) :
    ReadsOne s e events := by
  rintro before e' after rfl hsession hcontinues
  have hrespects := (Along.append.mp hkeeps).1.mono fun _ _ hkept => hkept.respects
  exact hstart.same_acquisition hreachable hsession hrespects hcontinues

end System

end

section

attribute [local instance] host.platform

theorem session_read_in_two :
    System.ReadsOne acquired (.process 0 host.stack) (read_on ++ [.process 0 host.stack]) :=
  System.session_reads_one reachable_acquired (by decide +kernel) (by decide +kernel)

/-- The datalogger is armed between the two responses, and has another acquisition at once. -/
def armed_between : List Event :=
  [.pop_data 0xFFFF] ++ host.exchange 5 3 [] ++ read_on

/-- The second response of the session is about that acquisition. -/
theorem session_read_two_acquisitions :
    System.Reachable acquired ∧ System.StartsSession acquired (.process 0 host.stack) ∧
      ¬ System.ReadsOne acquired (.process 0 host.stack)
        (armed_between ++ [.process 0 host.stack]) := by
  refine ⟨reachable_acquired, by decide +kernel, fun hone => ?_⟩
  obtain ⟨-, -, hids⟩ := hone armed_between (.process 0 host.stack) [] rfl (by decide +kernel)
    (by decide +kernel)
  exact absurd hids (by decide +kernel)

end

end scrutiny
