import Scrutiny.Ownership.Finality
import Scrutiny.Ownership.Status

open foundation

namespace scrutiny

open datalogging protocol

variable [Platform]

open MainHandler LoopHandler

namespace datalogging.DataLogger

/-- The trigger is looked for, or was found. -/
def Engaged (d : DataLogger) : Prop := d.m_state = .Armed ∨ d.m_state = .Triggered

instance (d : DataLogger) : Decidable d.Engaged := inferInstanceAs (Decidable (_ ∨ _))

variable {d : DataLogger}

omit [Platform] in
theorem not_engaged_of_idle (hidle : d.m_state = .Idle) : ¬d.Engaged := by
  simp [Engaged, hidle]

omit [Platform] in
theorem Engaged.ne_completed (h : d.Engaged) : d.m_state ≠ .AcquisitionCompleted := by
  rcases h with harmed | htriggered
  · simp [harmed]
  · simp [htriggered]

/-- A datalogger that runs is not armed by itself. -/
theorem engaged_of_process {handler : Config} {timebases : LoopId → Timebase} {memory : Memory}
    (h : (d.process handler timebases memory).1.Engaged) : d.Engaged := by
  cases herror : d.m_encoder.error with
  | true =>
    cases hactive : d.m_state.active with
    | false => rwa [process_inactive hactive] at h
    | true =>
      rw [process_error hactive herror] at h
      simp [Engaged] at h
  | false =>
    rcases process_state herror handler timebases memory with hsame | ⟨harmed, _⟩ | ⟨htriggered, _⟩
    · rwa [Engaged, hsame] at h
    · exact .inl harmed
    · exact .inr htriggered

/-- A datalogger that only logs goes on, or fails. -/
theorem process_of_configured (hconfigured : d.m_state = .Configured) (handler : Config)
    (timebases : LoopId → Timebase) (memory : Memory) :
    (d.process handler timebases memory).1.m_state = .Configured ∨
      (d.process handler timebases memory).1.m_state = .Error := by
  have hactive : d.m_state.active = true := by rw [hconfigured]; rfl
  cases herror : d.m_encoder.error with
  | true =>
    rw [process_error hactive herror]
    exact .inr rfl
  | false =>
    rcases process_state herror handler timebases memory with hsame | ⟨harmed, _⟩ | ⟨htriggered, _⟩
    · exact .inl (hsame.trans hconfigured)
    · cases harmed.symm.trans hconfigured
    · cases htriggered.symm.trans hconfigured

omit [Platform] in
theorem engaged_of_disarm (h : d.disarm_trigger.Engaged) : d.Engaged := by
  unfold disarm_trigger at h
  split at h
  · simp [Engaged] at h
  · exact h

theorem not_engaged_of_configure (d : DataLogger) (handler : Config) (timebase : Option LoopId)
    (config_id : uint16_t) : ¬(d.configure handler timebase config_id).Engaged := by
  obtain ⟨_, _, _, ⟨hstate, _⟩ | ⟨hstate, _⟩⟩ := d.configure_cases handler timebase config_id
  · simp [Engaged, hstate]
  · simp [Engaged, hstate]

end datalogging.DataLogger

namespace MainHandler

/-- No request arms the datalogger at once. -/
theorem engaged_of_serve_request {s : System} {stack : Stack}
    (h : (serve_request s stack).datalogger.Engaged) : s.datalogger.Engaged := by
  obtain ⟨response, hdatalogging⟩ := serve_request_datalogging s stack
  have hdatalogger := congrArg Datalogging.datalogger hdatalogging
  change (serve_request s stack).datalogger = _ at hdatalogger
  rw [hdatalogger] at h
  cases hserved : served s with
  | none =>
    rw [hserved] at h
    exact h
  | some subfunction =>
    rw [hserved] at h
    cases subfunction with
    | ConfigureDatalog =>
      simp only [configuration_result] at h
      cases configure_datalog_attempts s.main s.loops s.comm.m_active_request with
      | waits hcode hsame =>
        rw [hsame] at h
        exact h
      | fails hcode hreset =>
        rw [hreset] at h
        exact absurd h (DataLogger.not_engaged_of_idle rfl)
      | refused hcode timebase config_id hreset =>
        rw [hreset] at h
        exact absurd h (DataLogger.not_engaged_of_idle rfl)
      | accepted hcode haccepted =>
        obtain ⟨timebase, config_id, hconfigured⟩ := haccepted.datalogger
        rw [hconfigured] at h
        exact absurd h (DataLogger.not_engaged_of_configure _ _ _ _)
    | ArmTrigger =>
      unfold arm_trigger at h
      simp only at h
      split at h <;> exact h
    | DisarmTrigger =>
      unfold disarm_trigger at h
      simp only at h
      split at h <;> exact h
    | ReadAcquisition =>
      obtain ⟨m_reader, hread⟩ := read_acquisition_datalogger s.datalogging response
      simp only [hread] at h
      exact h
    | ResetDatalogger =>
      unfold reset_datalogger request_release at h
      simp only at h
      split at h
      · split at h <;> exact h
      · exact absurd h (DataLogger.not_engaged_of_idle rfl)
    | GetSetup => exact h
    | GetStatus => exact h
    | GetAcquisitionMetadata => exact h

end MainHandler

namespace LoopHandler

theorem status_update_state (datalogger : DataLogger) :
    (status_update datalogger).state = datalogger.m_state := by
  unfold status_update
  split <;> rfl

theorem send_report_of_room {self : LoopHandler} {datalogger : DataLogger}
    (hroom : self.m_loop2main_msg = none) (hstate : datalogger.m_state ≠ .AcquisitionCompleted) :
    (self.send_report datalogger).m_loop2main_msg =
      some (.DATALOGGER_STATUS_UPDATE (status_update datalogger)) := by
  have hacquired : datalogger.data_acquired = false := by
    simp [DataLogger.data_acquired, hstate]
  unfold send_report
  rw [hroom, hacquired]
  simp

/-- The datalogger that a call leaves, when the loop that makes it is the owner. -/
theorem run_datalogger_of_owner {s : System} {id : LoopId}
    (howner : s.datalogger.m_owner = some id) :
    (run_datalogger s id).datalogger =
      (s.datalogger.process s.main.m_config (timebases s) s.memory).1 := by
  have hdatalogging := run_datalogger_datalogging s id
  rw [if_pos (show owns_datalogger id s.datalogger = true from decide_eq_true howner)]
    at hdatalogging
  exact congrArg Datalogging.datalogger hdatalogging

theorem run_datalogger_of_stranger {s : System} {id : LoopId}
    (howner : s.datalogger.m_owner ≠ some id) : run_datalogger s id = s := by
  rw [run_datalogger, if_neg (by simp [owns_datalogger, DataLogger.get_owner, howner])]

/-- A loop with room for a message tells the state of its datalogger, unless it is that an
acquisition is completed. -/
theorem run_datalogger_tells {s : System} {id : LoopId} (howner : s.datalogger.m_owner = some id)
    (hroom : s.loop2main id = none)
    (hstate : (run_datalogger s id).datalogger.m_state ≠ .AcquisitionCompleted) :
    (run_datalogger s id).loop2main id = some (.DATALOGGER_STATUS_UPDATE
      (status_update (run_datalogger s id).datalogger)) := by
  have howns : owns_datalogger id s.datalogger = true := decide_eq_true howner
  rw [run_datalogger_of_owner howner] at hstate ⊢
  rw [run_datalogger, if_pos howns]
  simp only [System.set_loop_loop2main, if_true]
  exact send_report_of_room hroom hstate

/-- It takes a command to arm the datalogger. -/
theorem engaged_of_process_common {s : System} {id : LoopId} {timestep_100ns : timediff_t}
    (h : (process_common s id timestep_100ns).datalogger.Engaged) :
    s.datalogger.Engaged ∨
      received s id = some .DATALOGGER_ARM_TRIGGER ∧ s.datalogger.m_owner = some id := by
  have hinformed : (informed s id timestep_100ns).datalogger.Engaged := by
    rw [process_common_eq] at h
    by_cases howner : (informed s id timestep_100ns).datalogger.m_owner = some id
    · rw [run_datalogger_of_owner howner] at h
      exact DataLogger.engaged_of_process h
    · rwa [run_datalogger_of_stranger howner] at h
  rw [informed_datalogger] at hinformed
  cases hreceived : received s id with
  | none =>
    rw [hreceived] at hinformed
    exact .inl hinformed
  | some msg =>
    rw [hreceived] at hinformed
    cases msg with
    | TAKE_DATALOGGER_OWNERSHIP => exact .inl hinformed
    | DATALOGGER_ARM_TRIGGER =>
      simp only at hinformed
      split at hinformed
      · rename_i howns
        exact .inr ⟨rfl, of_decide_eq_true howns⟩
      · exact .inl hinformed
    | DATALOGGER_DISARM_TRIGGER =>
      simp only at hinformed
      split at hinformed
      · exact .inl (DataLogger.engaged_of_disarm hinformed)
      · exact .inl hinformed
    | RELEASE_DATALOGGER_OWNERSHIP =>
      simp only at hinformed
      split at hinformed <;> exact .inl hinformed

/-- The owner that acts on a command tells the state that it leads to, unless it is that an
acquisition is completed. -/
theorem commanded_tells {s : System} {id : LoopId} {timestep_100ns : timediff_t}
    {command : Main2LoopMessage} (hcommand : received s id = some command)
    (hsame : owner_after s.datalogger.m_owner id (some command) = some id)
    (hsilent : answer_to s.datalogger.m_owner id (some command) = none)
    (hstate : (process_common s id timestep_100ns).datalogger.m_state ≠ .AcquisitionCompleted) :
    (process_common s id timestep_100ns).loop2main id = some (.DATALOGGER_STATUS_UPDATE
      (status_update (process_common s id timestep_100ns).datalogger)) := by
  obtain ⟨howner, _, hslot⟩ := informed_spec s id timestep_100ns
  rw [hcommand] at howner hslot
  rw [(received_eq_some hcommand).1, hsilent] at hslot
  exact run_datalogger_tells (howner.trans hsame) hslot hstate

end LoopHandler

/-- A status that waits to be read. -/
def System.Reported (s : System) (i : LoopId) (update : DataloggerStatusUpdate) : Prop :=
  i < s.loop_count ∧ s.loop2main i = some (.DATALOGGER_STATUS_UPDATE update)

namespace System.Reported

variable {s : System} {i : LoopId} {update : DataloggerStatusUpdate}

/-- A loop does not take back what it said. -/
theorem of_process_common (h : s.Reported i update) (id : LoopId) (timestep_100ns : timediff_t) :
    (LoopHandler.process_common s id timestep_100ns).Reported i update := by
  refine ⟨(process_common_loop_count s id timestep_100ns) ▸ h.1, ?_⟩
  by_cases hne : i = id
  · subst hne
    rcases process_common_loop2main s i timestep_100ns with hsaid | ⟨_, hempty, _⟩
    · rw [hsaid, h.2, Option.some_or]
    · rw [h.2, Option.some_or] at hempty
      cases hempty
  · exact (process_common_loop2main_of_ne s id timestep_100ns hne).trans h.2

theorem of_process_loop (h : s.Reported i update) {id : LoopId} (hne : i ≠ id) :
    (MainHandler.process_loop s id).Reported i update := by
  refine ⟨(process_loop_frame s id).loop_count ▸ h.1, ?_⟩
  rw [process_loop_loop2main, if_neg hne]
  exact h.2

end System.Reported

/-- What the main handler is told of a datalogger that waits for its trigger, or found it. -/
structure Told (s : System) : Prop where
  /-- A loop that took the datalogger from one that had reported on it has no message. -/
  taken : ∀ i update, s.Reported i update → ∀ a, s.datalogger.m_owner = some a → a ≠ i →
    s.main2loop a = none
  truthful : s.datalogger.Engaged → ∀ i update, s.Reported i update →
    update.state ≠ .AcquisitionCompleted
  known : s.datalogger.Engaged →
    s.datalogging.threadsafe_data.datalogger_state ≠ .AcquisitionCompleted ∨
      ∃ i update, s.Reported i update

namespace Told

variable {s : System}

theorem frame (h : Told s) {s' : System} (hframe : DataloggingFrame s s') : Told s' := by
  have hreported (i : LoopId) (update : DataloggerStatusUpdate) :
      s'.Reported i update ↔ s.Reported i update := by
    rw [System.Reported, System.Reported, hframe.loop_count, hframe.loop2main]
  refine ⟨?_, ?_, ?_⟩
  · simp only [hreported, hframe.datalogger, hframe.main2loop]
    exact h.taken
  · simp only [hreported, hframe.datalogger]
    exact h.truthful
  · simp only [hreported, hframe.datalogger, hframe.datalogging]
    exact h.known

theorem process_loop (h : Told s) {id : LoopId} (hid : id < s.loop_count) :
    Told (MainHandler.process_loop s id) := by
  have hcount := (process_loop_frame s id).loop_count
  have hreported (i : LoopId) (update : DataloggerStatusUpdate) :
      (MainHandler.process_loop s id).Reported i update ↔ i ≠ id ∧ s.Reported i update := by
    rw [System.Reported, System.Reported, hcount, process_loop_loop2main]
    split
    · rename_i hi
      simp [hi]
    · rename_i hi
      simp [hi]
  have hengaged (hafter : (MainHandler.process_loop s id).datalogger.Engaged) :
      s.datalogger.Engaged := by
    rcases process_loop_datalogger s id with hsame | hreset
    · rwa [hsame] at hafter
    · rw [hreset] at hafter
      exact absurd hafter (DataLogger.not_engaged_of_idle rfl)
  refine ⟨?_, ?_, ?_⟩
  · intro i update hi a howner hne
    rw [(process_loop_keeps s id).2] at howner
    rw [process_loop_main2loop]
    exact h.taken i update ((hreported i update).mp hi).2 a howner hne
  · intro hafter i update hi
    exact h.truthful (hengaged hafter) i update ((hreported i update).mp hi).2
  · intro hafter
    have hbefore := hengaged hafter
    -- A status that is read is known, and the others still wait.
    have hkept (hdata : (MainHandler.process_loop s id).datalogging.threadsafe_data =
        s.datalogging.threadsafe_data)
        (hother : ∀ update, s.loop2main id ≠ some (.DATALOGGER_STATUS_UPDATE update)) :
        (MainHandler.process_loop s id).datalogging.threadsafe_data.datalogger_state ≠
            .AcquisitionCompleted ∨
          ∃ i update, (MainHandler.process_loop s id).Reported i update := by
      rw [hdata]
      refine (h.known hbefore).imp_right ?_
      rintro ⟨i, update, hi⟩
      refine ⟨i, update, (hreported i update).mpr ⟨?_, hi⟩⟩
      rintro rfl
      exact hother update hi.2
    cases hmsg : s.loop2main id with
    | none => exact hkept (by rw [process_loop_of_empty hmsg]) (by simp [hmsg])
    | some msg =>
      cases msg with
      | DATALOGGER_STATUS_UPDATE update =>
        left
        rw [process_loop_of_message hmsg]
        exact h.truthful hbefore id update ⟨hid, hmsg⟩
      | DATALOGGER_OWNERSHIP_TAKEN =>
        exact hkept (by rw [process_loop_of_message hmsg]; rfl) (by simp [hmsg])
      | DATALOGGER_OWNERSHIP_RELEASED =>
        exact hkept (by rw [process_loop_of_message hmsg]; rfl) (by simp [hmsg])
      | DATALOGGER_DATA_ACQUIRED =>
        exact hkept (by rw [process_loop_of_message hmsg]; rfl) (by simp [hmsg])

theorem process_datalogging_logic (h : Told s)
    (hsilent : ∀ i < s.loop_count, s.loop2main i = none) :
    Told (MainHandler.process_datalogging_logic s) := by
  have hcount := (process_datalogging_logic_frame s).loop_count
  have hnone (i : LoopId) (update : DataloggerStatusUpdate) :
      ¬(MainHandler.process_datalogging_logic s).Reported i update := by
    rintro ⟨hi, hsaid⟩
    rw [process_datalogging_logic_loop2main, hsilent i (hcount ▸ hi)] at hsaid
    cases hsaid
  refine ⟨fun i update hi => absurd hi (hnone i update),
    fun _ i update hi => absurd hi (hnone i update), ?_⟩
  rw [process_datalogging_logic_datalogger]
  intro hengaged
  have hknown : s.datalogging.threadsafe_data.datalogger_state ≠ .AcquisitionCompleted := by
    rcases h.known hengaged with hknown | ⟨i, update, hi, hsaid⟩
    · exact hknown
    · cases hsaid.symm.trans (hsilent i hi)
  left
  by_cases herror : s.datalogging.error = .NoError
  · cases howner : s.datalogging.owner with
    | none =>
      rw [process_datalogging_logic_of_free herror howner, (offer_ownership_spec s).1]
      exact hengaged.ne_completed
    | some a =>
      rw [process_datalogging_logic_of_owner herror howner, send_commands_threadsafe]
      exact hknown
  · rw [process_datalogging_logic_of_error herror]
    exact hknown

theorem serve_request (h : Told s) (stack : Stack) : Told (MainHandler.serve_request s stack) := by
  have hreported (i : LoopId) (update : DataloggerStatusUpdate) :
      (MainHandler.serve_request s stack).Reported i update ↔ s.Reported i update := by
    rw [System.Reported, System.Reported, serve_request_loop_count, serve_request_loop2main]
  refine ⟨?_, ?_, ?_⟩
  · simp only [hreported, serve_request_main2loop, (serve_request_ownership s stack).2.2.1]
    exact h.taken
  · simp only [hreported]
    exact fun hengaged => h.truthful (engaged_of_serve_request hengaged)
  · simp only [hreported, serve_request_threadsafe]
    exact fun hengaged => h.known (engaged_of_serve_request hengaged)

theorem process_common (h : Told s) {id : LoopId} (hid : id < s.loop_count)
    (timestep_100ns : timediff_t) : Told (LoopHandler.process_common s id timestep_100ns) := by
  let after := LoopHandler.process_common s id timestep_100ns
  have hcount : after.loop_count = s.loop_count := process_common_loop_count s id timestep_100ns
  have howner : after.datalogger.m_owner = owner_after s.datalogger.m_owner id (received s id) :=
    process_common_owner s id timestep_100ns
  have hslot (i : LoopId) := process_common_main2loop s id i timestep_100ns
  -- A status that was not there before is that of the owner, in the state it leaves.
  have hreported {i : LoopId} {update : DataloggerStatusUpdate} (hi : after.Reported i update) :
      s.Reported i update ∨
        i = id ∧ after.datalogger.m_owner = some id ∧ update.state = after.datalogger.m_state := by
    obtain ⟨hlt, hsaid⟩ := hi
    rw [hcount] at hlt
    by_cases hne : i = id
    · subst hne
      rcases process_common_update hsaid with hbefore | ⟨howns, rfl⟩
      · exact .inl ⟨hlt, hbefore⟩
      · exact .inr ⟨rfl, howns, status_update_state _⟩
    · rw [process_common_loop2main_of_ne s id timestep_100ns hne] at hsaid
      exact .inl ⟨hlt, hsaid⟩
  refine ⟨?_, ?_, ?_⟩
  · intro i update hi a ha hne
    rw [hslot]
    split
    · rfl
    · rename_i hkeeps
      rw [howner] at ha
      rcases owner_after_eq_some ha with ⟨htake, rfl⟩ | ⟨_, hbefore, _⟩
      · exact absurd ⟨rfl, by simp [htake]⟩ hkeeps
      · rcases hreported hi with hsaid | ⟨rfl, howns, _⟩
        · exact h.taken i update hsaid a hbefore hne
        · exact absurd (Option.some.inj ((howner.trans ha).symm.trans howns)) hne
  · intro hengaged i update hi
    rcases hreported hi with hsaid | ⟨_, _, hstate⟩
    · rcases engaged_of_process_common hengaged with hbefore | ⟨harm, howns⟩
      · exact h.truthful hbefore i update hsaid
      · obtain ⟨hroom, hcommand⟩ := received_eq_some harm
        have hne : id ≠ i := by
          rintro rfl
          cases hroom.symm.trans hsaid.2
        cases hcommand.symm.trans (h.taken i update hsaid id howns hne)
    · rw [hstate]
      exact hengaged.ne_completed
  · intro hengaged
    rw [process_common_datalogging]
    rcases engaged_of_process_common hengaged with hbefore | ⟨harm, howns⟩
    · refine (h.known hbefore).imp_right ?_
      rintro ⟨i, update, hi⟩
      exact ⟨i, update, hi.of_process_common id timestep_100ns⟩
    · exact .inr ⟨id, _, hcount ▸ hid, commanded_tells harm howns rfl hengaged.ne_completed⟩

theorem invariant : System.Inductive Told fun _ => True where
  frame _ _ hframe h := h.frame hframe
  message _ _ hid h := h.process_loop hid
  logic _ hsilent h := h.process_datalogging_logic hsilent
  request _ stack _ _ h := h.serve_request stack
  loop _ _ timestep_100ns hid h := h.process_common hid timestep_100ns

end Told

theorem System.initial_told {s : System} (hinitial : Initial s) : Told s := by
  have hnone (i : LoopId) (update : DataloggerStatusUpdate) : ¬s.Reported i update := by
    rintro ⟨hi, hsaid⟩
    cases hsaid.symm.trans ((initial_tracks hinitial).loop2main i hi)
  refine ⟨fun i update hi => absurd hi (hnone i update),
    fun _ i update hi => absurd hi (hnone i update), fun hengaged => .inl ?_⟩
  have hstate : s.datalogging.threadsafe_data.datalogger_state = s.datalogger.m_state := by
    obtain ⟨before, m_config, hinit⟩ := hinitial
    unfold MainHandler.init at hinit
    simp only at hinit
    split at hinit
    · simp at hinit
    · split at hinit
      · simp at hinit
      · simp only [Prod.mk.injEq, true_and] at hinit
        subst hinit
        rfl
  rw [hstate]
  exact hengaged.ne_completed

/-- In every run, a datalogger that waits for its trigger or found it is not one that the main
handler takes for completed. -/
theorem System.Reachable.told {s : System} (h : Reachable s) : Told s :=
  (Told.invariant.reachable (fun _ hinitial => initial_told hinitial) h).2

end scrutiny
