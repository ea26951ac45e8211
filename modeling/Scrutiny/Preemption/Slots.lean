import Scrutiny.Preemption.Parts
import Scrutiny.Foundation.Trace

open foundation

namespace scrutiny

open datalogging protocol

variable [Platform]

open MainHandler LoopHandler

namespace LoopHandler

/-- What `process_message` sends. -/
def replies (id : LoopId) (datalogger : DataLogger) : Main2LoopMessage → List Loop2MainMessage
  | .TAKE_DATALOGGER_OWNERSHIP => [.DATALOGGER_OWNERSHIP_TAKEN]
  | .DATALOGGER_ARM_TRIGGER | .DATALOGGER_DISARM_TRIGGER => []
  | .RELEASE_DATALOGGER_OWNERSHIP =>
    if owns_datalogger id datalogger then [.DATALOGGER_OWNERSHIP_RELEASED] else []

/-- What `send_report` sends. -/
def reports (self : LoopHandler) (datalogger : DataLogger) : List Loop2MainMessage :=
  if self.m_loop2main_msg.isSome then []
  else if datalogger.data_acquired ∧ self.m_datalogger_data_acquired = false then
    [.DATALOGGER_DATA_ACQUIRED]
  else [.DATALOGGER_STATUS_UPDATE (status_update datalogger)]

/-- All that a call of `process_common` sends, in the order in which it does: the reply to its
message, then the report of an owner. -/
def sends (s : System) (id : LoopId) (timestep_100ns : timediff_t) : List Loop2MainMessage :=
  let told := informed s id timestep_100ns
  (received s id).toList.flatMap (replies id s.datalogger) ++
    if owns_datalogger id told.datalogger then
      (told.loops id).reports
        (told.datalogger.process told.main.m_config (timebases told) told.memory).1
    else []

end LoopHandler

namespace MainHandler

/-- All that `process_datalogging_logic` sends, and to whom. -/
def logic_sends (s : System) : List (LoopId × Main2LoopMessage) :=
  if s.datalogging.error ≠ .NoError then []
  else
    match s.datalogging.owner with
    | none => (offered_to s).toList.map fun id => (id, .TAKE_DATALOGGER_OWNERSHIP)
    | some id =>
      if (s.main2loop id).isSome then []
      else (next_command s).toList.map fun msg => (id, msg)

/-- What is sent to one of the loops. -/
def sent_to (i : LoopId) (sent : List (LoopId × Main2LoopMessage)) : List Main2LoopMessage :=
  (sent.filter fun message => message.1 = i).map Prod.snd

omit [Platform] in
theorem sent_to_self (i : LoopId) (msg : Main2LoopMessage) : sent_to i [(i, msg)] = [msg] := by
  simp [sent_to]

omit [Platform] in
theorem sent_to_other {a i : LoopId} (hne : a ≠ i) (msg : Main2LoopMessage) :
    sent_to i [(a, msg)] = [] := by
  simp [sent_to, hne]

end MainHandler

/-- What the main handler sends to a loop. -/
def main_posts (i : LoopId) (p : Progress System Part) :
    Act MainCall Interrupt → List Main2LoopMessage
  | .resume =>
    match p.next with
    | some (.logic _) => sent_to i (logic_sends p.state)
    | _ => []
  | .call _ | .interrupt _ => []

/-- What a loop takes from its slot, to act on it. -/
def loop_takes (i : LoopId) (p : Progress System Part) :
    Act MainCall Interrupt → List Main2LoopMessage
  | .interrupt (.loop_process id _) =>
    if id = i ∧ id < p.state.loop_count then (received p.state i).toList else []
  | .interrupt (.application _) | .call _ | .resume => []

/-- What a loop sends. -/
def loop_posts (i : LoopId) (p : Progress System Part) :
    Act MainCall Interrupt → List Loop2MainMessage
  | .interrupt (.loop_process id timestep_100ns) =>
    if id = i ∧ id < p.state.loop_count then sends p.state i timestep_100ns else []
  | .interrupt (.application _) | .call _ | .resume => []

/-- What the main handler takes note of. -/
def main_takes (i : LoopId) (p : Progress System Part) :
    Act MainCall Interrupt → List Loop2MainMessage
  | .resume =>
    match p.next with
    | some (.loop _ id) => if id = i then (p.state.loop2main i).toList else []
    | _ => []
  | .call _ | .interrupt _ => []

namespace MainHandler

/-- The slot of a loop after `process_datalogging_logic`, with all that was sent in it. -/
theorem process_datalogging_logic_posted (s : System) (i : LoopId) :
    (process_datalogging_logic s).main2loop i =
        posted (sent_to i (logic_sends s)) (s.main2loop i) ∧
      HasRoom (sent_to i (logic_sends s)) (s.main2loop i) := by
  by_cases herror : s.datalogging.error = .NoError
  · rw [logic_sends, if_neg (not_not.mpr herror)]
    cases howner : s.datalogging.owner with
    | none =>
      rw [process_datalogging_logic_of_free herror howner, (offer_ownership_spec s).2]
      cases hoffer : offered_to s with
      | none => exact ⟨rfl, .inl rfl⟩
      | some b =>
        have hroom := (offered_to_eq_some.mp hoffer).2
        by_cases hi : b = i
        · subst hi
          simp only [Option.toList_some, List.map_cons, List.map_nil, sent_to_self, if_true]
          exact ⟨rfl, .inr ⟨hroom, _, rfl⟩⟩
        · simp only [Option.toList_some, List.map_cons, List.map_nil, sent_to_other hi,
            Option.some.injEq, if_neg hi]
          exact ⟨rfl, .inl rfl⟩
    | some a =>
      rw [process_datalogging_logic_of_owner herror howner]
      by_cases hroom : s.main2loop a = none
      · rw [(send_commands_room hroom).2]
        simp only [hroom, Option.isSome_none, Bool.false_eq_true, if_false]
        cases hcommand : next_command s with
        | none =>
          refine ⟨?_, .inl rfl⟩
          split
          · rename_i hi
            rw [hi, hroom]
            rfl
          · rfl
        | some msg =>
          by_cases hi : a = i
          · subst hi
            simp only [Option.toList_some, List.map_cons, List.map_nil, sent_to_self, if_true]
            exact ⟨rfl, .inr ⟨hroom, _, rfl⟩⟩
          · simp only [Option.toList_some, List.map_cons, List.map_nil, sent_to_other hi,
              if_neg (Ne.symm hi)]
            exact ⟨rfl, .inl rfl⟩
      · rw [send_commands_busy hroom]
        simp only [Option.isSome_iff_ne_none.mpr hroom, if_true]
        exact ⟨rfl, .inl rfl⟩
  · rw [process_datalogging_logic_of_error herror, logic_sends, if_pos herror]
    exact ⟨rfl, .inl rfl⟩

theorem execute_part_main2loop (s : System) (part : Part) (i : LoopId) :
    (execute_part s part).1.main2loop i =
      match part with
      | .logic _ => posted (sent_to i (logic_sends s)) (s.main2loop i)
      | _ => s.main2loop i := by
  cases part with
  | loop pass id => exact process_loop_main2loop s id i
  | logic pass => exact (process_datalogging_logic_posted s i).1
  | request stack =>
    rw [execute_part]
    split
    · change (execute_request s stack).main2loop i = s.main2loop i
      rw [System.main2loop, (execute_request_frame s stack).loops]
      rfl
    · rfl
  | response =>
    change (finish_request s).main2loop i = s.main2loop i
    rw [System.main2loop, (finish_request_frame s).1]
    rfl
  | finish => rfl

/-- The turn of a loop empties its slot, and nothing else does. -/
theorem execute_part_loop2main (s : System) (part : Part) (i : LoopId) :
    (execute_part s part).1.loop2main i =
      match part with
      | .loop _ id => if i = id then none else s.loop2main i
      | _ => s.loop2main i := by
  cases part with
  | loop pass id => exact process_loop_loop2main s id i
  | logic pass => exact process_datalogging_logic_loop2main s i
  | request stack =>
    rw [execute_part]
    split
    · change (execute_request s stack).loop2main i = s.loop2main i
      rw [System.loop2main, (execute_request_frame s stack).loops]
      rfl
    · rfl
  | response =>
    change (finish_request s).loop2main i = s.loop2main i
    rw [System.loop2main, (finish_request_frame s).1]
    rfl
  | finish => rfl

theorem start_call_loops (s : System) (call : MainCall) :
    (start_call s call).1.loops = s.loops := by
  cases call with
  | receive_data data len => rfl
  | pop_data len => rfl
  | process timestep_100ns stack =>
    rw [start_call]
    split
    · rfl
    · rfl

end MainHandler

namespace LoopHandler

omit [Platform] in
theorem process_message_posted (self : LoopHandler) (id : LoopId) (datalogger : DataLogger)
    (msg_in : Main2LoopMessage) :
    (self.process_message id datalogger msg_in).1.m_loop2main_msg =
      posted (replies id datalogger msg_in) self.m_loop2main_msg := by
  cases msg_in with
  | TAKE_DATALOGGER_OWNERSHIP => rfl
  | DATALOGGER_ARM_TRIGGER => rfl
  | DATALOGGER_DISARM_TRIGGER => rfl
  | RELEASE_DATALOGGER_OWNERSHIP =>
    unfold process_message replies
    simp only
    split <;> rfl

theorem send_report_posted (self : LoopHandler) (datalogger : DataLogger) :
    (self.send_report datalogger).m_loop2main_msg =
        posted (self.reports datalogger) self.m_loop2main_msg ∧
      HasRoom (self.reports datalogger) self.m_loop2main_msg := by
  unfold send_report reports
  split
  · exact ⟨rfl, .inl rfl⟩
  · rename_i hroom
    have hempty : self.m_loop2main_msg = none := by simpa using hroom
    split
    · exact ⟨rfl, .inr ⟨hempty, _, rfl⟩⟩
    · exact ⟨rfl, .inr ⟨hempty, _, rfl⟩⟩

theorem informed_posted (s : System) (id : LoopId) (timestep_100ns : timediff_t) :
    (informed s id timestep_100ns).loop2main id =
        posted ((received s id).toList.flatMap (replies id s.datalogger)) (s.loop2main id) ∧
      HasRoom ((received s id).toList.flatMap (replies id s.datalogger)) (s.loop2main id) := by
  unfold informed
  simp only [System.set_datalogging_loop2main, System.set_loop_loop2main, if_true]
  cases hreceived : received s id with
  | none =>
    rw [receive_message_of_none hreceived]
    exact ⟨rfl, .inl rfl⟩
  | some msg =>
    rw [receive_message_of_some hreceived, Option.toList_some, List.flatMap_singleton]
    refine ⟨process_message_posted _ id s.datalogger msg, ?_⟩
    have hroom := (received_eq_some hreceived).1
    cases msg with
    | TAKE_DATALOGGER_OWNERSHIP => exact .inr ⟨hroom, _, rfl⟩
    | DATALOGGER_ARM_TRIGGER => exact .inl rfl
    | DATALOGGER_DISARM_TRIGGER => exact .inl rfl
    | RELEASE_DATALOGGER_OWNERSHIP =>
      unfold replies
      simp only
      split
      · exact .inr ⟨hroom, _, rfl⟩
      · exact .inl rfl

/-- The slot of a loop after its call, with all that was sent in it. -/
theorem process_common_posted (s : System) (id : LoopId) (timestep_100ns : timediff_t) :
    (process_common s id timestep_100ns).loop2main id =
        posted (sends s id timestep_100ns) (s.loop2main id) ∧
      HasRoom (sends s id timestep_100ns) (s.loop2main id) := by
  obtain ⟨htold, hreplied⟩ := informed_posted s id timestep_100ns
  rw [sends, posted_append, ← htold, process_common_eq, run_datalogger]
  split
  · obtain ⟨hsent, hreported⟩ := send_report_posted ((informed s id timestep_100ns).loops id)
      ((informed s id timestep_100ns).datalogger.process
        (informed s id timestep_100ns).main.m_config
        (timebases (informed s id timestep_100ns)) (informed s id timestep_100ns).memory).1
    refine ⟨?_, hreplied.append (htold ▸ hreported)⟩
    simp only [System.set_loop_loop2main, if_true]
    exact hsent
  · rw [List.append_nil]
    exact ⟨rfl, hreplied⟩

end LoopHandler

namespace System

/-- A call of a loop empties its slot of what it takes. -/
theorem loop_process_main2loop (s : System) (i id : LoopId) (timestep_100ns : timediff_t) :
    (s.main2loop i).toList =
      (if id = i ∧ id < s.loop_count then (received s i).toList else []) ++
        ((step s (.loop_process id timestep_100ns)).main2loop i).toList := by
  rw [step]
  by_cases hid : id < s.loop_count
  · rw [if_pos hid, process_common_main2loop]
    by_cases hown : id = i
    · subst hown
      rw [if_pos ⟨rfl, hid⟩]
      cases hreceived : received s id with
      | none => rw [if_neg fun h => h.2 rfl, Option.toList_none, List.nil_append]
      | some msg =>
        rw [if_pos ⟨rfl, Option.some_ne_none msg⟩, (received_eq_some hreceived).2]
        exact (List.append_nil _).symm
    · rw [if_neg fun h => hown h.1, if_neg fun h => hown h.1.symm, List.nil_append]
  · rw [if_neg hid, if_neg fun h => hid h.2, List.nil_append]

/-- A call of a loop fills its slot with what it sends. -/
theorem loop_process_loop2main (s : System) (i id : LoopId) (timestep_100ns : timediff_t) :
    (s.loop2main i).toList ++
        (if id = i ∧ id < s.loop_count then sends s i timestep_100ns else []) =
      ((step s (.loop_process id timestep_100ns)).loop2main i).toList := by
  rw [step]
  by_cases hid : id < s.loop_count
  · rw [if_pos hid]
    by_cases hown : id = i
    · subst hown
      obtain ⟨hslot, hroom⟩ := process_common_posted s id timestep_100ns
      rw [if_pos ⟨rfl, hid⟩, hslot, hroom.toList_posted]
    · rw [if_neg fun h => hown h.1, List.append_nil,
        process_common_loop2main_of_ne s id timestep_100ns (Ne.symm hown)]
  · rw [if_neg hid, if_neg fun h => hid h.2, List.append_nil]

end System

theorem main2loop_balance (i : LoopId) (p : Progress System Part)
    (act : Act MainCall Interrupt) :
    (p.state.main2loop i).toList ++ main_posts i p act =
      loop_takes i p act ++ ((preemptible.step p act).state.main2loop i).toList := by
  obtain ⟨s, next⟩ := p
  cases act with
  | call call =>
    rw [main_posts, loop_takes, List.append_nil, List.nil_append]
    cases next with
    | none =>
      change _ = ((start_call s call).1.main2loop i).toList
      rw [System.main2loop, System.main2loop, start_call_loops]
    | some part => rfl
  | resume =>
    rw [main_posts, loop_takes, List.nil_append]
    cases next with
    | none => exact List.append_nil _
    | some part =>
      have hslot := execute_part_main2loop s part i
      change _ = ((execute_part s part).1.main2loop i).toList
      rw [hslot]
      cases part with
      | logic pass => exact (process_datalogging_logic_posted s i).2.toList_posted.symm
      | loop pass id => exact List.append_nil _
      | request stack => exact List.append_nil _
      | response => exact List.append_nil _
      | finish => exact List.append_nil _
  | interrupt interrupt =>
    rw [main_posts, List.append_nil]
    cases interrupt with
    | application bytes => rfl
    | loop_process id timestep_100ns => exact System.loop_process_main2loop s i id timestep_100ns

theorem loop2main_balance (i : LoopId) (p : Progress System Part)
    (act : Act MainCall Interrupt) :
    (p.state.loop2main i).toList ++ loop_posts i p act =
      main_takes i p act ++ ((preemptible.step p act).state.loop2main i).toList := by
  obtain ⟨s, next⟩ := p
  cases act with
  | call call =>
    rw [loop_posts, main_takes, List.append_nil, List.nil_append]
    cases next with
    | none =>
      change _ = ((start_call s call).1.loop2main i).toList
      rw [System.loop2main, System.loop2main, start_call_loops]
    | some part => rfl
  | resume =>
    rw [loop_posts, List.append_nil]
    cases next with
    | none => rfl
    | some part =>
      have hread := execute_part_loop2main s part i
      change (s.loop2main i).toList = _ ++ ((execute_part s part).1.loop2main i).toList
      rw [hread]
      cases part with
      | loop pass id =>
        change _ = (if id = i then (s.loop2main i).toList else []) ++
          (if i = id then none else s.loop2main i).toList
        by_cases hown : id = i
        · rw [if_pos hown, if_pos hown.symm, Option.toList_none, List.append_nil]
        · rw [if_neg hown, if_neg fun h => hown h.symm, List.nil_append]
      | logic pass => rfl
      | request stack => rfl
      | response => rfl
      | finish => rfl
  | interrupt interrupt =>
    rw [main_takes, List.nil_append]
    cases interrupt with
    | application bytes => exact List.append_nil _
    | loop_process id timestep_100ns => exact System.loop_process_loop2main s i id timestep_100ns

/-- The slots of a loop have room for what is sent. -/
def SlotsHaveRoom (i : LoopId) (p : Progress System Part) (act : Act MainCall Interrupt) : Prop :=
  HasRoom (main_posts i p act) (p.state.main2loop i) ∧
    HasRoom (loop_posts i p act) (p.state.loop2main i)

theorem slots_have_room (i : LoopId) (p : Progress System Part) (act : Act MainCall Interrupt) :
    SlotsHaveRoom i p act := by
  obtain ⟨s, next⟩ := p
  cases act with
  | call call => exact ⟨.inl rfl, .inl rfl⟩
  | resume =>
    refine ⟨?_, .inl rfl⟩
    cases next with
    | none => exact .inl rfl
    | some part =>
      cases part with
      | logic pass => exact (process_datalogging_logic_posted s i).2
      | loop pass id => exact .inl rfl
      | request stack => exact .inl rfl
      | response => exact .inl rfl
      | finish => exact .inl rfl
  | interrupt interrupt =>
    refine ⟨.inl rfl, ?_⟩
    cases interrupt with
    | application bytes => exact .inl rfl
    | loop_process id timestep_100ns =>
      rw [loop_posts]
      split
      · exact (process_common_posted s i timestep_100ns).2
      · exact .inl rfl

/-- Wherever the loops interrupt `process`, each message is sent into an empty slot, and those
that one side of a slot takes are those that the other one sent: none is lost, doubled or written
over. -/
theorem System.messages_in_order (i : LoopId) (p : Progress System Part)
    (acts : List (Act MainCall Interrupt)) :
    (∀ act, SlotsHaveRoom i (run preemptible.step p acts) act) ∧
      (p.state.main2loop i).toList ++ trace preemptible.step (main_posts i) p acts =
        trace preemptible.step (loop_takes i) p acts ++
          ((run preemptible.step p acts).state.main2loop i).toList ∧
      (p.state.loop2main i).toList ++ trace preemptible.step (loop_posts i) p acts =
        trace preemptible.step (main_takes i) p acts ++
          ((run preemptible.step p acts).state.loop2main i).toList := by
  refine ⟨slots_have_room i _, ?_, ?_⟩
  · exact @trace_balance _ _ _ _ _ _ _ (fun _ => True) (fun _ _ _ => trivial)
      (fun p act _ => main2loop_balance i p act) p trivial acts
  · exact @trace_balance _ _ _ _ _ _ _ (fun _ => True) (fun _ _ _ => trivial)
      (fun p act _ => loop2main_balance i p act) p trivial acts

end scrutiny
