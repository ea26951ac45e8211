import Scrutiny.Host
import Scrutiny.Ownership.Tenure

open foundation

namespace scrutiny

open datalogging protocol

section

variable [Platform]

open MainHandler LoopHandler

/-- A command for the trigger of the datalogger. -/
inductive TriggerCommand where
  | arm
  | disarm
  deriving DecidableEq, Repr

/-- The state that the datalogger is in once a command took effect. -/
def TriggerCommand.outcome : TriggerCommand → DataLogger.State
  | .arm => .Armed
  | .disarm => .Configured

namespace System

/-- The command that is answered OK to, if the request received is one. -/
def answered_command (s : System) : Option TriggerCommand :=
  if served s = some .ArmTrigger ∧ (arm_trigger s.datalogging).1 = .OK then some .arm
  else if served s = some .DisarmTrigger ∧ (disarm_trigger s.datalogging).1 = .OK then
    some .disarm
  else none

/-- The command that the call accepts. -/
def accepted_command (s : System) : Event → Option TriggerCommand
  | .process timestep_100ns _ => answered_command (begin_process s timestep_100ns)
  | _ => none

/-- The last command that is accepted in a run. -/
def last_accepted : System → List Event → Option TriggerCommand
  | _, [] => none
  | s, e :: events => (last_accepted (step s e) events).or (accepted_command s e)

/-- No command waits to be sent, or to be read by the loop. -/
def Drained (a : LoopId) (s : System) : Prop :=
  s.datalogging.request_arm_trigger = false ∧ s.datalogging.request_disarm_trigger = false ∧
    s.main2loop a = none

instance (a : LoopId) (s : System) : Decidable (Drained a s) :=
  inferInstanceAs (Decidable (_ ∧ _))

/-- The loop finds the datalogger armed, and its trigger fires. -/
def Fires (s : System) : Event → Prop
  | .loop_process id timestep_100ns =>
    (informed s id timestep_100ns).datalogger.m_state = .Armed ∧
      ((process_common s id timestep_100ns).datalogger.m_state = .Triggered ∨
        (process_common s id timestep_100ns).datalogger.m_state = .AcquisitionCompleted)
  | _ => False

instance (s : System) (e : Event) : Decidable (Fires s e) :=
  match e with
  | .loop_process id timestep_100ns => inferInstanceAs (Decidable
    ((informed s id timestep_100ns).datalogger.m_state = .Armed ∧
      ((process_common s id timestep_100ns).datalogger.m_state = .Triggered ∨
        (process_common s id timestep_100ns).datalogger.m_state = .AcquisitionCompleted)))
  | .process _ _ | .receive_data _ _ | .pop_data _ | .application _ =>
    inferInstanceAs (Decidable False)

/-- When the call accepts ArmTrigger, no DisarmTrigger accepted before still waits to be sent. -/
def ArmsLast (s : System) : Event → Prop
  | .process timestep_100ns stack =>
    accepted_command s (.process timestep_100ns stack) = some .arm →
      (begin_process s timestep_100ns).datalogging.request_disarm_trigger = false
  | _ => True

instance (s : System) (e : Event) : Decidable (ArmsLast s e) :=
  match e with
  | .process timestep_100ns stack => inferInstanceAs (Decidable
    (accepted_command s (.process timestep_100ns stack) = some .arm →
      (begin_process s timestep_100ns).datalogging.request_disarm_trigger = false))
  | .receive_data _ _ | .pop_data _ | .loop_process _ _ | .application _ =>
    inferInstanceAs (Decidable True)

end System

namespace datalogging.DataLogger

/-- A datalogger with a configuration that commands act on. -/
structure Commandable (d : DataLogger) : Prop where
  configured : d.m_state ≠ .Idle
  no_error : d.m_state ≠ .Error
  encoder : d.m_encoder.error = false

instance (d : DataLogger) : Decidable (Commandable d) :=
  decidable_of_iff (d.m_state ≠ .Idle ∧ d.m_state ≠ .Error ∧ d.m_encoder.error = false)
    ⟨fun h => ⟨h.1, h.2.1, h.2.2⟩, fun h => ⟨h.1, h.2, h.3⟩⟩

variable {d : DataLogger}

omit [Platform] in
theorem arm_trigger_state (h : Commandable d) :
    Commandable d.arm_trigger ∧ d.arm_trigger.m_state = .Armed := by
  obtain ⟨hidle, herror, hencoder⟩ := h
  unfold arm_trigger
  split
  · exact ⟨⟨nofun, nofun, hencoder⟩, rfl⟩
  · rename_i hother
    cases hstate : d.m_state with
    | Armed => exact ⟨⟨hidle, herror, hencoder⟩, rfl⟩
    | Idle => exact absurd hstate hidle
    | Error => exact absurd hstate herror
    | Configured => exact absurd (.inl hstate) hother
    | AcquisitionCompleted => exact absurd (.inr (.inl hstate)) hother
    | Triggered => exact absurd (.inr (.inr hstate)) hother

omit [Platform] in
theorem disarm_trigger_state (h : Commandable d) :
    Commandable d.disarm_trigger ∧ d.disarm_trigger.m_state = .Configured := by
  obtain ⟨hidle, herror, hencoder⟩ := h
  unfold disarm_trigger
  split
  · exact ⟨⟨nofun, nofun, hencoder⟩, rfl⟩
  · rename_i hother
    cases hstate : d.m_state with
    | Configured => exact ⟨⟨hidle, herror, hencoder⟩, rfl⟩
    | Idle => exact absurd hstate hidle
    | Error => exact absurd hstate herror
    | Armed => exact absurd (.inl hstate) hother
    | AcquisitionCompleted => exact absurd (.inr (.inl hstate)) hother
    | Triggered => exact absurd (.inr (.inr hstate)) hother

theorem process_commandable (h : Commandable d) (handler : Config)
    (timebases : LoopId → Timebase) (memory : Memory) :
    Commandable (d.process handler timebases memory).1 := by
  obtain ⟨hencoder, herror⟩ := process_no_error h.encoder h.no_error handler timebases memory
  refine ⟨?_, herror, hencoder⟩
  rcases process_state h.encoder handler timebases memory with
    hsame | ⟨_, hfires | hcompleted⟩ | ⟨_, hcompleted⟩
  · rw [hsame]
    exact h.configured
  · simp [hfires]
  · simp [hcompleted]
  · simp [hcompleted]

end datalogging.DataLogger

namespace MainHandler

/-- Nothing that matters to a command changes. -/
structure SameCommands (before after : Datalogging) : Prop where
  state : after.datalogger.m_state = before.datalogger.m_state
  encoder : after.datalogger.m_encoder.error = before.datalogger.m_encoder.error
  arm : after.request_arm_trigger = before.request_arm_trigger
  disarm : after.request_disarm_trigger = before.request_disarm_trigger

omit [Platform] in
theorem SameCommands.refl (d : Datalogging) : SameCommands d d := ⟨rfl, rfl, rfl, rfl⟩

omit [Platform] in
theorem request_release_same (d : Datalogging) : SameCommands d (request_release d) := by
  unfold request_release
  split <;> exact ⟨rfl, rfl, rfl, rfl⟩

theorem read_acquisition_same (d : Datalogging) (response : Response) :
    SameCommands d (read_acquisition d response).2 := by
  obtain ⟨m_reader, hdatalogger⟩ := read_acquisition_datalogger d response
  refine ⟨?_, ?_, ?_, ?_⟩
  · rw [hdatalogger]
  · rw [hdatalogger]
    rfl
  all_goals
    unfold read_acquisition start_reading
    simp only
    repeat' split
    all_goals rfl

/-- With an owner, the requests that are not commands leave them alone. -/
theorem serve_request_same {s : System} {a : LoopId} (howner : s.datalogging.owner = some a)
    (harm : served s ≠ some .ArmTrigger) (hdisarm : served s ≠ some .DisarmTrigger)
    (stack : Stack) : SameCommands s.datalogging (serve_request s stack).datalogging := by
  obtain ⟨response, hdatalogging⟩ := serve_request_datalogging s stack
  rw [hdatalogging]
  cases hserved : served s with
  | none => exact .refl _
  | some subfunction =>
    cases subfunction with
    | ArmTrigger => exact absurd hserved harm
    | DisarmTrigger => exact absurd hserved hdisarm
    | ConfigureDatalog =>
      have howned : s.main.m_datalogging.owner = some a := howner
      simp only [configuration_result, configure_datalog_of_owner howned]
      obtain ⟨hstate, hencoder, harm, hdisarm⟩ :=
        request_release_same { s.main.m_datalogging with reading_in_progress := false }
      exact ⟨hstate, hencoder, harm, hdisarm⟩
    | ResetDatalogger =>
      simp only [reset_datalogger, howner]
      exact request_release_same s.datalogging
    | ReadAcquisition => exact read_acquisition_same s.datalogging response
    | GetSetup => exact .refl _
    | GetStatus => exact .refl _
    | GetAcquisitionMetadata => exact .refl _

end MainHandler

namespace System

/-- The command that a message carries. -/
def message_command : Option Main2LoopMessage → Option TriggerCommand
  | some .DATALOGGER_ARM_TRIGGER => some .arm
  | some .DATALOGGER_DISARM_TRIGGER => some .disarm
  | _ => none

/-- The command that takes effect last, of those that wait to be sent. -/
def requested_command (d : Datalogging) : Option TriggerCommand :=
  if d.request_disarm_trigger then some .disarm
  else if d.request_arm_trigger then some .arm
  else none

/-- The command that takes effect last, of those that are on their way to the loop. -/
def pending_command (a : LoopId) (s : System) : Option TriggerCommand :=
  (requested_command s.datalogging).or (message_command (s.main2loop a))

/-- The datalogger follows a command: it is on its way, or took effect. -/
structure Follows (a : LoopId) (command : Option TriggerCommand) (s : System) : Prop where
  commandable : s.datalogger.Commandable
  follows : ∀ c, command = some c → pending_command a s = some c ∨
    pending_command a s = none ∧ s.datalogger.m_state = c.outcome

/-- A message that the owner of the datalogger acts on. -/
theorem informed_state {s : System} {id : LoopId} (h : s.datalogger.Commandable)
    (howner : s.datalogger.m_owner = some id) (timestep_100ns : timediff_t) :
    (informed s id timestep_100ns).datalogger.Commandable ∧
      (informed s id timestep_100ns).datalogger.m_state =
        ((message_command (received s id)).map TriggerCommand.outcome).getD
          s.datalogger.m_state := by
  have howns : owns_datalogger id s.datalogger = true := decide_eq_true howner
  rw [informed_datalogger]
  cases received s id with
  | none => exact ⟨h, rfl⟩
  | some msg =>
    cases msg with
    | TAKE_DATALOGGER_OWNERSHIP => exact ⟨⟨h.configured, h.no_error, h.encoder⟩, rfl⟩
    | DATALOGGER_ARM_TRIGGER =>
      simp only [howns, if_true]
      exact DataLogger.arm_trigger_state h
    | DATALOGGER_DISARM_TRIGGER =>
      simp only [howns, if_true]
      exact DataLogger.disarm_trigger_state h
    | RELEASE_DATALOGGER_OWNERSHIP =>
      simp only [howns, if_true]
      exact ⟨⟨h.configured, h.no_error, h.encoder⟩, rfl⟩

/-- A loop that does not own the datalogger only takes it. -/
theorem informed_state_of_ne {s : System} {id : LoopId} (howner : s.datalogger.m_owner ≠ some id)
    (timestep_100ns : timediff_t) :
    ∃ owner, (informed s id timestep_100ns).datalogger = s.datalogger.set_owner owner := by
  have hstranger : owns_datalogger id s.datalogger = false := decide_eq_false howner
  rw [informed_datalogger]
  cases received s id with
  | none => exact ⟨s.datalogger.m_owner, rfl⟩
  | some msg =>
    cases msg with
    | TAKE_DATALOGGER_OWNERSHIP => exact ⟨_, rfl⟩
    | DATALOGGER_ARM_TRIGGER | DATALOGGER_DISARM_TRIGGER | RELEASE_DATALOGGER_OWNERSHIP =>
      simp only [hstranger, Bool.false_eq_true, if_false]
      exact ⟨s.datalogger.m_owner, rfl⟩

namespace Follows

variable {a : LoopId} {command : Option TriggerCommand} {s : System}

theorem pending_congr {s' : System}
    (hdisarm : s'.datalogging.request_disarm_trigger = s.datalogging.request_disarm_trigger)
    (harm : s'.datalogging.request_arm_trigger = s.datalogging.request_arm_trigger)
    (hslot : s'.main2loop a = s.main2loop a) : pending_command a s' = pending_command a s := by
  rw [pending_command, pending_command, requested_command, requested_command, hdisarm, harm, hslot]

/-- The messages of the loops while the owner stays in place. -/
theorem process_loops (h : Follows a command s) (howner : s.datalogging.owner = some a)
    (hsaid : s.loop2main a ≠ some .DATALOGGER_OWNERSHIP_TAKEN)
    (hkept : (MainHandler.process_loops s).datalogging.owner = some a) :
    Follows a command (MainHandler.process_loops s) := by
  obtain ⟨_, _, hdatalogging⟩ := process_loops_kept howner hsaid hkept
  have hdatalogger : (MainHandler.process_loops s).datalogger = s.datalogger := by
    change (MainHandler.process_loops s).datalogging.datalogger = s.datalogging.datalogger
    rw [hdatalogging]
  have hpending : pending_command a (MainHandler.process_loops s) = pending_command a s :=
    pending_congr (by rw [hdatalogging]) (by rw [hdatalogging]) (process_loops_main2loop s a)
  refine ⟨?_, ?_⟩
  · rw [hdatalogger]
    exact h.commandable
  · rw [hpending, hdatalogger]
    exact h.follows

/-- A request that is sent leaves its flag for the slot, which was empty. -/
theorem process_datalogging_logic (h : Follows a command s)
    (howner : s.datalogging.owner = some a) :
    Follows a command (MainHandler.process_datalogging_logic s) := by
  refine ⟨?_, ?_⟩
  · rw [process_datalogging_logic_datalogger]
    exact h.commandable
  rw [process_datalogging_logic_datalogger]
  have hpending : pending_command a (MainHandler.process_datalogging_logic s) =
      pending_command a s := by
    by_cases herror : s.datalogging.error = .NoError
    · rw [process_datalogging_logic_of_owner herror howner]
      by_cases hroom : s.main2loop a = none
      · obtain ⟨hdatalogging, hslots⟩ := send_commands_room hroom
        have hslot := hslots a
        rw [if_pos rfl] at hslot
        rw [pending_command, pending_command, hdatalogging, hslot, hroom]
        unfold next_command requested_command
        cases hrelease : s.datalogging.request_ownership_release with
        | true => rfl
        | false =>
          cases harm : s.datalogging.request_arm_trigger with
          | true =>
            cases hdisarm : s.datalogging.request_disarm_trigger with
            | true => simp [without_command, hdisarm]
            | false => simp [without_command, hdisarm, message_command]
          | false =>
            cases hdisarm : s.datalogging.request_disarm_trigger with
            | true => simp [without_command, harm, message_command]
            | false => simp [without_command, hdisarm, harm]
      · rw [send_commands_busy hroom]
    · rw [process_datalogging_logic_of_error herror]
  rw [hpending]
  exact h.follows

/-- What is on its way is still so when nothing that matters to a command changes. -/
theorem same (h : Follows a command s) {s' : System}
    (hsame : SameCommands s.datalogging s'.datalogging)
    (hslot : s'.main2loop a = s.main2loop a) : Follows a command s' := by
  have hstate : s'.datalogger.m_state = s.datalogger.m_state := hsame.state
  refine ⟨⟨?_, ?_, hsame.encoder.trans h.commandable.encoder⟩, ?_⟩
  · rw [hstate]
    exact h.commandable.configured
  · rw [hstate]
    exact h.commandable.no_error
  · rw [pending_congr hsame.disarm hsame.arm hslot, hstate]
    exact h.follows

/-- With an owner, only the commands change what is on its way. -/
theorem serve_request (h : Follows a command s) (howner : s.datalogging.owner = some a)
    (hlast : answered_command s = some .arm → s.datalogging.request_disarm_trigger = false)
    (stack : Stack) :
    Follows a ((answered_command s).or command) (MainHandler.serve_request s stack) := by
  have hslot : (MainHandler.serve_request s stack).main2loop a = s.main2loop a := by
    rw [serve_request_main2loop]
  obtain ⟨response, hdatalogging⟩ := serve_request_datalogging s stack
  by_cases harm : served s = some .ArmTrigger
  · rw [harm] at hdatalogging
    by_cases haccepts : accepts_commands s.datalogging = true
    · have hanswered : answered_command s = some .arm := by
        rw [answered_command, if_pos ⟨harm, by rw [arm_trigger, if_pos haccepts]⟩]
      rw [arm_trigger, if_pos haccepts] at hdatalogging
      rw [hanswered, Option.some_or]
      refine ⟨?_, ?_⟩
      · change ((MainHandler.serve_request s stack).datalogging.datalogger).Commandable
        rw [hdatalogging]
        exact h.commandable
      · intro c hc
        obtain rfl := Option.some.inj hc
        left
        rw [pending_command, hdatalogging, requested_command, hlast hanswered]
        rfl
    · have hanswered : answered_command s = none := by
        simp [answered_command, harm, arm_trigger, haccepts]
      rw [hanswered, Option.none_or]
      refine h.same ?_ hslot
      rw [hdatalogging, arm_trigger, if_neg haccepts]
      exact .refl _
  · by_cases hdisarm : served s = some .DisarmTrigger
    · rw [hdisarm] at hdatalogging
      by_cases haccepts : accepts_commands s.datalogging = true
      · have hanswered : answered_command s = some .disarm := by
          rw [answered_command, if_neg fun h => harm h.1,
            if_pos ⟨hdisarm, by rw [disarm_trigger, if_pos haccepts]⟩]
        rw [disarm_trigger, if_pos haccepts] at hdatalogging
        rw [hanswered, Option.some_or]
        refine ⟨?_, ?_⟩
        · change ((MainHandler.serve_request s stack).datalogging.datalogger).Commandable
          rw [hdatalogging]
          exact h.commandable
        · intro c hc
          obtain rfl := Option.some.inj hc
          left
          rw [pending_command, hdatalogging]
          rfl
      · have hanswered : answered_command s = none := by
          simp [answered_command, hdisarm, disarm_trigger, haccepts]
        rw [hanswered, Option.none_or]
        refine h.same ?_ hslot
        rw [hdatalogging, disarm_trigger, if_neg haccepts]
        exact .refl _
    · have hanswered : answered_command s = none := by
        simp [answered_command, harm, hdisarm]
      rw [hanswered, Option.none_or]
      exact h.same (serve_request_same howner harm hdisarm stack) hslot

/-- The message that the owner acts on takes effect. -/
theorem informed (h : Follows a command s) (howner : s.datalogger.m_owner = some a)
    (id : LoopId) (timestep_100ns : timediff_t) :
    Follows a command (LoopHandler.informed s id timestep_100ns) := by
  by_cases hid : id = a
  · subst hid
    obtain ⟨hcommandable, hstate⟩ := informed_state h.commandable howner timestep_100ns
    have hslot := (informed_spec s id timestep_100ns).2.1
    refine ⟨hcommandable, fun c hc => ?_⟩
    have hpending : pending_command id (LoopHandler.informed s id timestep_100ns) =
        (requested_command s.datalogging).or (message_command
          ((LoopHandler.informed s id timestep_100ns).main2loop id)) := rfl
    have hbefore := h.follows c hc
    rw [pending_command] at hbefore
    rw [hpending, hslot, hstate]
    cases hreceived : received s id with
    | none => exact hbefore
    | some msg =>
      rw [(received_eq_some hreceived).2] at hbefore
      rw [if_neg nofun]
      cases hrequested : requested_command s.datalogging with
      | some later =>
        rw [hrequested, Option.some_or] at hbefore
        rcases hbefore with hsame | ⟨hnone, _⟩
        · exact .inl hsame
        · cases hnone
      | none =>
        rw [hrequested, Option.none_or] at hbefore
        rcases hbefore with hsent | ⟨hnone, heffect⟩
        · exact .inr ⟨rfl, by rw [hsent]; rfl⟩
        · exact .inr ⟨rfl, by rw [hnone]; exact heffect⟩
  · have hother : s.datalogger.m_owner ≠ some id := by
      rw [howner]
      exact fun hsame => hid (Option.some.inj hsame).symm
    obtain ⟨owner, hdatalogger⟩ := informed_state_of_ne hother timestep_100ns
    have hdatalogging : (LoopHandler.informed s id timestep_100ns).datalogging =
        { s.datalogging with datalogger := s.datalogger.set_owner owner } := by
      rw [← hdatalogger]
      rfl
    refine h.same ?_ (informed_main2loop_of_ne s id timestep_100ns (Ne.symm hid))
    rw [hdatalogging]
    exact ⟨rfl, rfl, rfl, rfl⟩

/-- Until the trigger fires, the datalogger stays in the state it was put in. -/
theorem run_datalogger (h : Follows a command s) (id : LoopId)
    (hquiet : ¬(s.datalogger.m_state = .Armed ∧
      ((LoopHandler.run_datalogger s id).datalogger.m_state = .Triggered ∨
        (LoopHandler.run_datalogger s id).datalogger.m_state = .AcquisitionCompleted))) :
    Follows a command (LoopHandler.run_datalogger s id) := by
  have hslot := run_datalogger_main2loop s id a
  have hdatalogging := run_datalogger_datalogging s id
  by_cases howns : owns_datalogger id s.datalogger = true
  · rw [if_pos howns] at hdatalogging
    have hdatalogger : (LoopHandler.run_datalogger s id).datalogger =
        (s.datalogger.process s.main.m_config (timebases s) s.memory).1 := by
      change (LoopHandler.run_datalogger s id).datalogging.datalogger = _
      rw [hdatalogging]
    have hpending : pending_command a (LoopHandler.run_datalogger s id) = pending_command a s :=
      pending_congr (by rw [hdatalogging]) (by rw [hdatalogging]) hslot
    rw [hdatalogger] at hquiet
    refine ⟨hdatalogger ▸ DataLogger.process_commandable h.commandable _ _ _, fun c hc => ?_⟩
    rw [hpending, hdatalogger]
    refine (h.follows c hc).imp_right fun ⟨hnone, heffect⟩ => ⟨hnone, ?_⟩
    rcases DataLogger.process_state h.commandable.encoder s.main.m_config (timebases s) s.memory
      with hsame | ⟨harmed, hfires⟩ | ⟨htriggered, _⟩
    · exact hsame.trans heffect
    · exact absurd ⟨harmed, hfires⟩ hquiet
    · rw [htriggered] at heffect
      cases c <;> cases heffect
  · rw [if_neg howns] at hdatalogging
    refine h.same ?_ hslot
    rw [hdatalogging]
    exact .refl _

theorem process_common (h : Follows a command s) (howner : s.datalogger.m_owner = some a)
    {id : LoopId} {timestep_100ns : timediff_t}
    (hquiet : ¬Fires s (.loop_process id timestep_100ns)) :
    Follows a command (LoopHandler.process_common s id timestep_100ns) := by
  rw [process_common_eq]
  exact (h.informed howner id timestep_100ns).run_datalogger id hquiet

theorem process (h : Follows a command s) (hready : s.main.Ready) (hclaiming : Claiming s)
    (ha : a < s.loop_count) (howner : s.datalogging.owner = some a) {timestep_100ns : timediff_t}
    {stack : Stack}
    (hafter : (step s (.process timestep_100ns stack)).datalogging.owner = some a)
    (hlast : ArmsLast s (.process timestep_100ns stack)) :
    Follows a ((accepted_command s (.process timestep_100ns stack)).or command)
      (step s (.process timestep_100ns stack)) := by
  obtain ⟨hnoted, hbegun, hserved, hsilent⟩ := process_kept hready hafter
  have hticked : Follows a command (ticked s timestep_100ns) := h.same (.refl _) rfl
  have hstart : Follows a command (begin_process s timestep_100ns) :=
    (hticked.process_loops howner (hclaiming.owner a ha howner).2 hnoted).process_datalogging_logic
      hnoted
  have hhandled := hstart.serve_request hbegun hlast stack
  rw [step, process_eq hready.enabled, end_process_eq, hsilent]
  refine process_datalogging_logic ?_ ?_
  · have hframe := finished_frame (MainHandler.serve_request (begin_process s timestep_100ns) stack)
    refine hhandled.same ?_ (congrFun hframe.main2loop a)
    rw [hframe.datalogging]
    exact .refl _
  · rw [(finished_frame _).datalogging]
    exact hserved

/-- What one step preserves while the loop stays the owner. -/
theorem step (h : Follows a command s) (hready : s.main.Ready) (hclaiming : Claiming s)
    (ha : a < s.loop_count) (howned : OwnedBy a s) {e : Event}
    (hafter : OwnedBy a (System.step s e)) (hquiet : ¬Fires s e) (hlast : ArmsLast s e) :
    Follows a ((accepted_command s e).or command) (System.step s e) := by
  have hframe {s' : System} (hframe : DataloggingFrame s s') : Follows a command s' := by
    refine h.same ?_ (congrFun hframe.main2loop a)
    rw [hframe.datalogging]
    exact .refl _
  cases e with
  | receive_data data len => exact hframe ⟨rfl, rfl, rfl⟩
  | pop_data len =>
    have hpopped : DataloggingFrame s (s.set_comm (s.comm.pop_data s.main.m_timebase len).1) :=
      ⟨rfl, rfl, rfl⟩
    have hfinished := finished_frame (s.set_comm (s.comm.pop_data s.main.m_timebase len).1)
    exact hframe ⟨hfinished.datalogging.trans hpopped.datalogging,
      hfinished.loops.trans hpopped.loops, hfinished.config.trans hpopped.config⟩
  | process timestep_100ns stack =>
    exact h.process hready hclaiming ha howned.owner hafter.owner hlast
  | loop_process id timestep_100ns =>
    rw [System.step]
    split
    · exact h.process_common howned.datalogger hquiet
    · exact h
  | application bytes => exact hframe ⟨rfl, rfl, rfl⟩

end Follows

theorem follows_of_run {a : LoopId} {command : Option TriggerCommand} {s : System}
    (h : Follows a command s) (hreachable : Reachable s) {events : List Event}
    (howned : Always System.step (OwnedBy a) s events)
    (hquiet : Along System.step (fun s e => ¬Fires s e) s events)
    (hlast : Along System.step ArmsLast s events) :
    Follows a ((last_accepted s events).or command) (run System.step s events) := by
  induction events generalizing s command with
  | nil => exact h
  | cons e events ih =>
    have haccounted := hreachable.accounted
    have ha := haccounted.owner_lt a howned.1.datalogger
    have hnext := h.step haccounted.ready hreachable.claiming ha howned.1 howned.2.head hquiet.1
      hlast.1
    have hrest := ih hnext (hreachable.step e) howned.2 hquiet.2 hlast.2
    rwa [← Option.or_assoc] at hrest

/-- While a loop owns a datalogger that is configured and its trigger does not fire, the commands
take effect in the order they are accepted in, as long as no ArmTrigger is accepted while a
DisarmTrigger waits to be sent. -/
theorem commands_in_order {s : System} (hreachable : Reachable s)
    (hcommandable : s.datalogger.Commandable) {a : LoopId} {events : List Event}
    (howned : Always System.step (OwnedBy a) s events)
    (hquiet : Along System.step (fun s e => ¬Fires s e) s events)
    (hlast : Along System.step ArmsLast s events) (before after : List Event)
    (hevents : events = before ++ after) (hdrained : Drained a (run System.step s before)) :
    ∀ command, last_accepted s before = some command →
      (run System.step s before).datalogger.get_state = command.outcome := by
  intro command hcommand
  subst hevents
  have hstart : Follows a none s := ⟨hcommandable, nofun⟩
  have hfollows := follows_of_run hstart hreachable howned.of_append (Along.append.mp hquiet).1
    (Along.append.mp hlast).1
  rw [Option.or_none] at hfollows
  obtain ⟨harm, hdisarm, hslot⟩ := hdrained
  have hpending : pending_command a (run System.step s before) = none := by
    rw [pending_command, requested_command, harm, hdisarm, hslot]
    rfl
  rcases hfollows.follows command hcommand with hwaits | ⟨_, heffect⟩
  · cases hpending.symm.trans hwaits
  · exact heffect

end System

end

section

attribute [local instance] host.platform

/-- The acquisition of one byte of memory by the first loop, when 0 equals 1. -/
def never_fires : List uint8_t :=
  [0, 0, 1, 0, 1, 128] ++ List.replicate 4 0 ++ [1] ++ List.replicate 4 0 ++ [2] ++
    [0, 0, 0, 0, 0] ++ [0, 0, 0, 0, 1] ++ [1, 0] ++
    codecs.encode_address_big_endian_8bits 0x1000 ++ [1]

/-- One call of the loop, then one of the main handler. -/
def turn : List Event := [.loop_process 0 0, .process 0 host.stack]

def owned : List Event :=
  host.connect ++ host.exchange 5 2 never_fires ++ turn

def arm_request : List Event := host.exchange 5 3 []

def disarm_request : List Event := host.exchange 5 4 []

/-- The trigger is armed, and disarmed once the loop took the command. -/
def armed_then_disarmed : List Event :=
  arm_request ++ turn ++ disarm_request ++ turn

theorem configured_after_disarmed :
    (run System.step (run System.step host.start owned) armed_then_disarmed).datalogger.get_state =
      .Configured :=
  System.commands_in_order (a := 0) (host.reachable_run owned) (by decide +kernel)
    (by decide +kernel) (by decide +kernel) (by decide +kernel) armed_then_disarmed []
    (List.append_nil _).symm (by decide +kernel) .disarm (by decide +kernel)

/-- The loop makes no call between the requests, so that the second and the third wait in their
flags, and the third is sent before the second. -/
theorem armed_before_disarmed :
    ¬ ∀ (s : System) (a : LoopId) (events : List Event), System.Reachable s →
      s.datalogger.Commandable → Always System.step (System.OwnedBy a) s events →
      Along System.step (fun s e => ¬System.Fires s e) s events →
      System.Drained a (run System.step s events) →
      ∀ command, System.last_accepted s events = some command →
        (run System.step s events).datalogger.get_state = command.outcome := by
  intro hordered
  have harmed := hordered (run System.step host.start owned) 0
    (arm_request ++ disarm_request ++ arm_request ++ turn ++ turn ++ turn)
    (host.reachable_run owned) (by decide +kernel) (by decide +kernel) (by decide +kernel)
    (by decide +kernel) .arm (by decide +kernel)
  revert harmed
  decide +kernel

end

end scrutiny
