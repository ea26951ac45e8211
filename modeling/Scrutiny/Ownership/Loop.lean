import Scrutiny.Datalogging.Process
import Scrutiny.MainHandler.Effects

open foundation

namespace scrutiny

open datalogging

variable [Platform]

namespace LoopHandler

/-- The message that a loop acts on when it runs: it waits for room for an answer. -/
def received (s : System) (id : LoopId) : Option Main2LoopMessage :=
  if s.loop2main id = none then s.main2loop id else none

theorem received_eq_none {s : System} {id : LoopId} :
    received s id = none ↔ s.main2loop id = none ∨ s.loop2main id ≠ none := by
  unfold received
  split
  · rename_i hroom
    simp [hroom]
  · rename_i hbusy
    simp [hbusy]

theorem received_eq_some {s : System} {id : LoopId} {msg : Main2LoopMessage}
    (hreceived : received s id = some msg) :
    s.loop2main id = none ∧ s.main2loop id = some msg := by
  unfold received at hreceived
  split at hreceived
  · rename_i hroom
    exact ⟨hroom, hreceived⟩
  · cases hreceived

/-- The owner of the datalogger once the loop acted on a message. -/
def owner_after (owner : Option LoopId) (id : LoopId) :
    Option Main2LoopMessage → Option LoopId
  | some .TAKE_DATALOGGER_OWNERSHIP => some id
  | some .RELEASE_DATALOGGER_OWNERSHIP => if owner = some id then none else owner
  | _ => owner

/-- The answer to a message. -/
def answer_to (owner : Option LoopId) (id : LoopId) :
    Option Main2LoopMessage → Option Loop2MainMessage
  | some .TAKE_DATALOGGER_OWNERSHIP => some .DATALOGGER_OWNERSHIP_TAKEN
  | some .RELEASE_DATALOGGER_OWNERSHIP =>
    if owner = some id then some .DATALOGGER_OWNERSHIP_RELEASED else none
  | _ => none

/-- Whether a message only informs about the datalogger. -/
def is_report : Loop2MainMessage → Bool
  | .DATALOGGER_DATA_ACQUIRED | .DATALOGGER_STATUS_UPDATE _ => true
  | .DATALOGGER_OWNERSHIP_TAKEN | .DATALOGGER_OWNERSHIP_RELEASED => false

omit [Platform] in
theorem process_message_spec (self : LoopHandler) (id : LoopId) (datalogger : DataLogger)
    (msg : Main2LoopMessage) (hroom : self.m_loop2main_msg = none) :
    (self.process_message id datalogger msg).2.m_owner =
        owner_after datalogger.m_owner id (some msg) ∧
      (self.process_message id datalogger msg).1.m_main2loop_msg = self.m_main2loop_msg ∧
      (self.process_message id datalogger msg).1.m_loop2main_msg =
        answer_to datalogger.m_owner id (some msg) := by
  cases msg with
  | TAKE_DATALOGGER_OWNERSHIP => exact ⟨rfl, rfl, rfl⟩
  | DATALOGGER_ARM_TRIGGER =>
    refine ⟨?_, rfl, hroom⟩
    change (if owns_datalogger id datalogger then datalogger.arm_trigger else datalogger).m_owner =
      datalogger.m_owner
    split
    · exact datalogger.arm_trigger_owner
    · rfl
  | DATALOGGER_DISARM_TRIGGER =>
    refine ⟨?_, rfl, hroom⟩
    change (if owns_datalogger id datalogger then datalogger.disarm_trigger else
      datalogger).m_owner = datalogger.m_owner
    split
    · exact datalogger.disarm_trigger_owner
    · rfl
  | RELEASE_DATALOGGER_OWNERSHIP =>
    by_cases howner : datalogger.m_owner = some id
    · have howns : owns_datalogger id datalogger = true := decide_eq_true howner
      simp [process_message, howns, owner_after, answer_to, howner, DataLogger.set_owner]
    · have howns : owns_datalogger id datalogger = false := decide_eq_false howner
      simp [process_message, howns, owner_after, answer_to, howner, hroom]

/-- A report is only sent into an empty slot. -/
theorem send_report_spec (self : LoopHandler) (datalogger : DataLogger) :
    (self.send_report datalogger).m_main2loop_msg = self.m_main2loop_msg ∧
      ((self.send_report datalogger).m_loop2main_msg = self.m_loop2main_msg ∨
        self.m_loop2main_msg = none ∧
          ∃ msg, is_report msg = true ∧
            (self.send_report datalogger).m_loop2main_msg = some msg) := by
  unfold send_report
  split
  · exact ⟨rfl, .inl rfl⟩
  · rename_i hroom
    have hempty : self.m_loop2main_msg = none := by simpa using hroom
    split
    · exact ⟨rfl, .inr ⟨hempty, _, rfl, rfl⟩⟩
    · exact ⟨rfl, .inr ⟨hempty, _, rfl, rfl⟩⟩

theorem receive_message_of_none {s : System} {id : LoopId} (hreceived : received s id = none)
    (timebase : Timebase) :
    { s.loops id with m_timebase := timebase }.receive_message id s.datalogger =
      ({ s.loops id with m_timebase := timebase }, s.datalogger) := by
  unfold receive_message
  split
  · rename_i msg_in hmsg hroom
    rcases received_eq_none.mp hreceived with hempty | hbusy
    · exact absurd (hmsg.symm.trans hempty) (by simp)
    · exact absurd hroom hbusy
  · rfl

theorem receive_message_of_some {s : System} {id : LoopId} {msg : Main2LoopMessage}
    (hreceived : received s id = some msg) (timebase : Timebase) :
    { s.loops id with m_timebase := timebase }.receive_message id s.datalogger =
      { s.loops id with m_timebase := timebase, m_main2loop_msg := none }.process_message id
        s.datalogger msg := by
  obtain ⟨hroom, hmsg⟩ := received_eq_some hreceived
  unfold receive_message
  simp only
  rw [show (s.loops id).m_main2loop_msg = some msg from hmsg,
    show (s.loops id).m_loop2main_msg = none from hroom]

/-- The system once the loop acted on its message. -/
def informed (s : System) (id : LoopId) (timestep_100ns : timediff_t) : System :=
  let loop := { s.loops id with m_timebase := (s.loops id).m_timebase.step timestep_100ns }
  let (loop, datalogger) := loop.receive_message id s.datalogger
  (s.set_loop id loop).set_datalogging { s.datalogging with datalogger }

theorem process_common_eq (s : System) (id : LoopId) (timestep_100ns : timediff_t) :
    process_common s id timestep_100ns = run_datalogger (informed s id timestep_100ns) id := rfl

section

variable (s : System) (id i : LoopId) (timestep_100ns : timediff_t)

theorem informed_spec :
    (informed s id timestep_100ns).datalogger.m_owner =
        owner_after s.datalogger.m_owner id (received s id) ∧
      (informed s id timestep_100ns).main2loop id =
        (if received s id = none then s.main2loop id else none) ∧
      (informed s id timestep_100ns).loop2main id =
        (s.loop2main id).or (answer_to s.datalogger.m_owner id (received s id)) := by
  unfold informed
  simp only [System.set_datalogging_datalogger, System.set_datalogging_main2loop,
    System.set_datalogging_loop2main, System.set_loop_main2loop, System.set_loop_loop2main, if_true]
  cases hreceived : received s id with
  | none =>
    rw [receive_message_of_none hreceived]
    exact ⟨rfl, rfl, (Option.or_none).symm⟩
  | some msg =>
    have hroom := (received_eq_some hreceived).1
    rw [receive_message_of_some hreceived, hroom, Option.none_or]
    exact process_message_spec _ id s.datalogger msg hroom

/-- The datalogger once the loop acted on its message. -/
theorem informed_datalogger :
    (informed s id timestep_100ns).datalogger = match received s id with
      | some .TAKE_DATALOGGER_OWNERSHIP => s.datalogger.set_owner (some id)
      | some .DATALOGGER_ARM_TRIGGER =>
        if owns_datalogger id s.datalogger then s.datalogger.arm_trigger else s.datalogger
      | some .DATALOGGER_DISARM_TRIGGER =>
        if owns_datalogger id s.datalogger then s.datalogger.disarm_trigger else s.datalogger
      | some .RELEASE_DATALOGGER_OWNERSHIP =>
        if owns_datalogger id s.datalogger then s.datalogger.set_owner none else s.datalogger
      | none => s.datalogger := by
  unfold informed
  simp only [System.set_datalogging_datalogger]
  cases hreceived : received s id with
  | none => rw [receive_message_of_none hreceived]
  | some msg =>
    rw [receive_message_of_some hreceived]
    cases msg with
    | TAKE_DATALOGGER_OWNERSHIP => rfl
    | DATALOGGER_ARM_TRIGGER => rfl
    | DATALOGGER_DISARM_TRIGGER => rfl
    | RELEASE_DATALOGGER_OWNERSHIP =>
      unfold process_message
      simp only
      split <;> rfl

theorem informed_encoder :
    (informed s id timestep_100ns).datalogger.m_encoder = s.datalogger.m_encoder := by
  rw [informed_datalogger]
  cases received s id with
  | none => rfl
  | some msg =>
    cases msg with
    | TAKE_DATALOGGER_OWNERSHIP => rfl
    | DATALOGGER_ARM_TRIGGER =>
      simp only
      split
      · exact s.datalogger.arm_trigger_encoder
      · rfl
    | DATALOGGER_DISARM_TRIGGER =>
      simp only
      split
      · exact s.datalogger.disarm_trigger_encoder
      · rfl
    | RELEASE_DATALOGGER_OWNERSHIP =>
      simp only
      split
      · rfl
      · rfl

theorem informed_main2loop_of_ne {i : LoopId} (hne : i ≠ id) :
    (informed s id timestep_100ns).main2loop i = s.main2loop i := by
  simp [informed, hne]

theorem informed_loop2main_of_ne {i : LoopId} (hne : i ≠ id) :
    (informed s id timestep_100ns).loop2main i = s.loop2main i := by
  simp [informed, hne]

theorem run_datalogger_owner :
    (run_datalogger s id).datalogger.m_owner = s.datalogger.m_owner := by
  unfold run_datalogger
  split
  · exact (s.datalogger.process_runs s.main.m_config (timebases s) s.memory).owner
  · rfl

/-- Of the member `m_datalogging`, only the datalogger runs, when the loop is its owner. -/
theorem run_datalogger_datalogging :
    (run_datalogger s id).datalogging = { s.datalogging with
      datalogger :=
        if owns_datalogger id s.datalogger then
          (s.datalogger.process s.main.m_config (timebases s) s.memory).1
        else s.datalogger } := by
  unfold run_datalogger
  split <;> rfl

theorem run_datalogger_main2loop : (run_datalogger s id).main2loop i = s.main2loop i := by
  unfold run_datalogger
  split
  · simp only [System.set_loop_main2loop]
    split
    · rename_i hi
      rw [hi]
      exact (send_report_spec (s.loops id) _).1
    · rfl
  · rfl

theorem run_datalogger_loop2main_of_ne {i : LoopId} (hne : i ≠ id) :
    (run_datalogger s id).loop2main i = s.loop2main i := by
  unfold run_datalogger
  split
  · simp only [System.set_loop_loop2main, if_neg hne]
    rfl
  · rfl

theorem run_datalogger_loop2main :
    (run_datalogger s id).loop2main id = s.loop2main id ∨
      s.datalogger.m_owner = some id ∧ s.loop2main id = none ∧
        ∃ msg, is_report msg = true ∧ (run_datalogger s id).loop2main id = some msg := by
  unfold run_datalogger
  split
  · rename_i howns
    simp only [System.set_loop_loop2main, if_true]
    rcases (send_report_spec (s.loops id)
      (s.datalogger.process s.main.m_config (timebases s) s.memory).1).2 with hkept | hsent
    · exact .inl hkept
    · exact .inr ⟨of_decide_eq_true howns, hsent⟩
  · exact .inl rfl

/-- Who owns the datalogger after a call of a loop. -/
theorem process_common_owner :
    (process_common s id timestep_100ns).datalogger.m_owner =
      owner_after s.datalogger.m_owner id (received s id) :=
  (run_datalogger_owner _ id).trans (informed_spec s id timestep_100ns).1

theorem process_common_main2loop :
    (process_common s id timestep_100ns).main2loop i =
      if i = id ∧ received s id ≠ none then none else s.main2loop i := by
  rw [process_common_eq, run_datalogger_main2loop]
  by_cases hi : i = id
  · subst hi
    rw [(informed_spec s i timestep_100ns).2.1]
    by_cases hreceived : received s i = none
    · rw [if_pos hreceived, if_neg fun h => h.2 hreceived]
    · rw [if_neg hreceived, if_pos ⟨rfl, hreceived⟩]
  · rw [informed_main2loop_of_ne s id timestep_100ns hi, if_neg fun h => hi h.1]

theorem process_common_loop2main_of_ne {i : LoopId} (hne : i ≠ id) :
    (process_common s id timestep_100ns).loop2main i = s.loop2main i := by
  rw [process_common_eq, run_datalogger_loop2main_of_ne _ id hne,
    informed_loop2main_of_ne s id timestep_100ns hne]

/-- What a loop says in a call: the answer to its message, else a report when it owns
the datalogger. -/
theorem process_common_loop2main :
    (process_common s id timestep_100ns).loop2main id =
        (s.loop2main id).or (answer_to s.datalogger.m_owner id (received s id)) ∨
      owner_after s.datalogger.m_owner id (received s id) = some id ∧
        (s.loop2main id).or (answer_to s.datalogger.m_owner id (received s id)) = none ∧
        ∃ msg, is_report msg = true ∧
          (process_common s id timestep_100ns).loop2main id = some msg := by
  obtain ⟨howner, _, hslot⟩ := informed_spec s id timestep_100ns
  have hreport := run_datalogger_loop2main (informed s id timestep_100ns) id
  rwa [howner, hslot] at hreport

theorem process_common_datalogging :
    (process_common s id timestep_100ns).datalogging = { s.datalogging with
      datalogger := (process_common s id timestep_100ns).datalogger } := by
  unfold process_common run_datalogger
  simp only
  split <;> rfl

theorem process_common_loop_count :
    (process_common s id timestep_100ns).loop_count = s.loop_count := by
  rw [System.loop_count, process_common_main]
  rfl

end

end LoopHandler

end scrutiny
