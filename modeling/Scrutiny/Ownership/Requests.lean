import Scrutiny.Datalogging.Process
import Scrutiny.MainHandler.Effects

open foundation

namespace scrutiny

open datalogging protocol

variable [Platform]

namespace MainHandler

/-- A configuration that is attempted touches the datalogger and, when it is accepted,
chooses the next owner. -/
theorem configure_datalogger_spec (self : MainHandler) (loops : LoopId → LoopHandler)
    (request : Request) (d : Datalogging) :
    ((self.configure_datalogger loops request d).2.datalogger.m_owner = d.datalogger.m_owner) ∧
      ∃ new_owner, (self.configure_datalogger loops request d).2 = { d with
          datalogger := (self.configure_datalogger loops request d).2.datalogger
          new_owner := new_owner } ∧
        if (self.configure_datalogger loops request d).1 = .OK then
          ∃ id, new_owner = some id ∧ id < self.m_config.m_loop_count.toNat
        else new_owner = d.new_owner := by
  unfold configure_datalogger set_configuration
  simp only
  split
  · exact ⟨rfl, _, rfl, rfl⟩
  · split
    · exact ⟨rfl, _, rfl, rfl⟩
    · rename_i hloop
      split
      · exact ⟨rfl, _, rfl, rfl⟩
      · split
        · exact ⟨rfl, _, rfl, rfl⟩
        · split
          · refine ⟨DataLogger.configure_owner _ _ _ _, _, rfl, ?_⟩
            rw [if_pos rfl]
            exact ⟨_, rfl, BitVec.lt_def.mp (BitVec.not_le.mp hloop)⟩
          · exact ⟨DataLogger.configure_owner _ _ _ _, _, rfl, rfl⟩

/-- With an owner, a configuration only asks for the release. -/
theorem configure_datalog_of_owner {self : MainHandler} {a : LoopId}
    (howner : self.m_datalogging.owner = some a) (loops : LoopId → LoopHandler)
    (request : Request) :
    self.configure_datalog loops request =
      (.ProcessAgain, request_release { self.m_datalogging with reading_in_progress := false }) := by
  unfold configure_datalog
  simp only [howner]
  rfl

theorem configure_datalog_of_free {self : MainHandler} (howner : self.m_datalogging.owner = none)
    (loops : LoopId → LoopHandler) (request : Request) :
    self.configure_datalog loops request = reset_on_failure (self.configure_datalogger loops request
      { self.m_datalogging with reading_in_progress := false }) := by
  unfold configure_datalog
  simp only [howner]

/-- What a configuration does to the member `m_datalogging`, whether it is accepted or not. -/
theorem configure_datalog_spec (self : MainHandler) (loops : LoopId → LoopHandler)
    (request : Request) :
    (self.configure_datalog loops request).2.owner = self.m_datalogging.owner ∧
      (self.configure_datalog loops request).2.error = self.m_datalogging.error ∧
      (self.configure_datalog loops request).2.datalogger.m_owner =
        self.m_datalogging.datalogger.m_owner ∧
      if (self.configure_datalog loops request).1 = .OK then
        self.m_datalogging.owner = none ∧ ∃ id, id < self.m_config.m_loop_count.toNat ∧
          (self.configure_datalog loops request).2.new_owner = some id
      else (self.configure_datalog loops request).2.new_owner = self.m_datalogging.new_owner := by
  cases howner : self.m_datalogging.owner with
  | some a =>
    rw [configure_datalog_of_owner howner]
    unfold request_release
    split <;> exact ⟨howner, rfl, rfl, rfl⟩
  | none =>
    rw [configure_datalog_of_free howner]
    obtain ⟨hdatalogger, new_owner, hresult, hnew_owner⟩ := self.configure_datalogger_spec loops
      request { self.m_datalogging with reading_in_progress := false }
    unfold reset_on_failure
    split
    · rename_i hfailed
      rw [if_neg hfailed.1] at hnew_owner
      rw [if_neg hfailed.1]
      refine ⟨?_, ?_, hdatalogger, ?_⟩
      · rw [hresult]
        exact howner
      · rw [hresult]
      · rw [hresult]
        exact hnew_owner
    · refine ⟨?_, ?_, hdatalogger, ?_⟩
      · rw [hresult]
        exact howner
      · rw [hresult]
      · split
        · rename_i hcode
          rw [if_pos hcode] at hnew_owner
          obtain ⟨id, hid, hlt⟩ := hnew_owner
          refine ⟨rfl, id, hlt, ?_⟩
          rw [hresult]
          exact hid
        · rename_i hcode
          rw [if_neg hcode] at hnew_owner
          rw [hresult]
          exact hnew_owner

theorem configuration_result_spec (s : System) :
    (configuration_result s).2.owner = s.datalogging.owner ∧
      (configuration_result s).2.error = s.datalogging.error ∧
      (configuration_result s).2.datalogger.m_owner = s.datalogger.m_owner ∧
      if (configuration_result s).1 = .OK then
        s.datalogging.owner = none ∧
          ∃ id, id < s.loop_count ∧ (configuration_result s).2.new_owner = some id
      else (configuration_result s).2.new_owner = s.datalogging.new_owner :=
  configure_datalog_spec s.main s.loops s.comm.m_active_request

/-- The loop chosen by the configuration that the pending request makes, if it is accepted. -/
def accepted_configuration (s : System) : Option LoopId :=
  if served s = some .ConfigureDatalog ∧ (configuration_result s).1 = .OK then
    (configuration_result s).2.new_owner
  else none

theorem accepted_configuration_eq_some {s : System} {c : LoopId}
    (haccepted : accepted_configuration s = some c) :
    s.datalogging.owner = none ∧ c < s.loop_count := by
  unfold accepted_configuration at haccepted
  split at haccepted
  · rename_i hserved
    obtain ⟨_, _, _, hchosen⟩ := configuration_result_spec s
    rw [if_pos hserved.2] at hchosen
    obtain ⟨howner, id, hlt, hid⟩ := hchosen
    cases hid.symm.trans haccepted
    exact ⟨howner, hlt⟩
  · cases haccepted

/-- Of the places where the ownership is kept, a request only touches the next owner. -/
theorem serve_request_ownership (s : System) (stack : Stack) :
    (serve_request s stack).datalogging.owner = s.datalogging.owner ∧
      (serve_request s stack).datalogging.error = s.datalogging.error ∧
      (serve_request s stack).datalogger.m_owner = s.datalogger.m_owner ∧
      (serve_request s stack).datalogging.new_owner =
        (accepted_configuration s).or s.datalogging.new_owner := by
  obtain ⟨response, hdatalogging⟩ := serve_request_datalogging s stack
  have hdatalogger : (serve_request s stack).datalogger.m_owner =
      (serve_request s stack).datalogging.datalogger.m_owner := rfl
  rw [hdatalogger, hdatalogging]
  have hother (hserved : served s ≠ some .ConfigureDatalog) : accepted_configuration s = none := by
    rw [accepted_configuration, if_neg fun h => hserved h.1]
  cases hserved : served s with
  | none => exact ⟨rfl, rfl, rfl, by rw [hother (by simp [hserved])]; rfl⟩
  | some subfunction =>
    cases subfunction with
    | ConfigureDatalog =>
      obtain ⟨howner, herror, hdatalogger, hchosen⟩ := configuration_result_spec s
      refine ⟨howner, herror, hdatalogger, ?_⟩
      simp only [accepted_configuration, hserved, true_and]
      split
      · rename_i hcode
        rw [if_pos hcode] at hchosen
        obtain ⟨_, id, _, hid⟩ := hchosen
        exact hid.trans (by rw [hid]; rfl)
      · rename_i hcode
        rw [if_neg hcode] at hchosen
        exact hchosen
    | ArmTrigger =>
      rw [hother (by simp [hserved])]
      unfold arm_trigger
      simp only
      split <;> exact ⟨rfl, rfl, rfl, rfl⟩
    | DisarmTrigger =>
      rw [hother (by simp [hserved])]
      unfold disarm_trigger
      simp only
      split <;> exact ⟨rfl, rfl, rfl, rfl⟩
    | ReadAcquisition =>
      rw [hother (by simp [hserved])]
      unfold read_acquisition start_reading
      simp only
      repeat' split
      all_goals exact ⟨rfl, rfl, rfl, rfl⟩
    | ResetDatalogger =>
      rw [hother (by simp [hserved])]
      unfold reset_datalogger request_release
      simp only
      repeat' split
      all_goals exact ⟨rfl, rfl, rfl, rfl⟩
    | GetSetup => exact ⟨rfl, rfl, rfl, by rw [hother (by simp [hserved])]; rfl⟩
    | GetStatus => exact ⟨rfl, rfl, rfl, by rw [hother (by simp [hserved])]; rfl⟩
    | GetAcquisitionMetadata => exact ⟨rfl, rfl, rfl, by rw [hother (by simp [hserved])]; rfl⟩

end MainHandler

end scrutiny
