import Scrutiny.MainHandler.Effects

open foundation

namespace scrutiny

open datalogging protocol

variable [Platform]

namespace MainHandler

theorem process_loop_of_empty {s : System} {id : LoopId} (hempty : s.loop2main id = none) :
    process_loop s id = s := by
  rw [process_loop, hempty]

theorem process_loop_of_message {s : System} {id : LoopId} {msg : Loop2MainMessage}
    (hmsg : s.loop2main id = some msg) :
    process_loop s id =
      (s.set_loop id { s.loops id with m_loop2main_msg := none }).set_datalogging
        (process_datalogging_loop_msg s.datalogging id msg) := by
  rw [process_loop, hmsg]

@[simp] theorem process_loop_loop2main (s : System) (id i : LoopId) :
    (process_loop s id).loop2main i = if i = id then none else s.loop2main i := by
  cases hmsg : s.loop2main id with
  | none =>
    rw [process_loop_of_empty hmsg]
    by_cases hi : i = id
    · rw [if_pos hi, hi, hmsg]
    · rw [if_neg hi]
  | some msg =>
    rw [process_loop_of_message hmsg]
    simp

@[simp] theorem process_loop_main2loop (s : System) (id i : LoopId) :
    (process_loop s id).main2loop i = s.main2loop i := by
  cases hmsg : s.loop2main id with
  | none => rw [process_loop_of_empty hmsg]
  | some msg =>
    rw [process_loop_of_message hmsg, System.set_datalogging_main2loop, System.set_loop_main2loop]
    split
    · rename_i hi
      rw [hi]
      rfl
    · rfl

@[simp] theorem process_loops_main2loop (s : System) (i : LoopId) :
    (process_loops s).main2loop i = s.main2loop i := by
  unfold process_loops
  generalize List.range s.loop_count = ids
  induction ids generalizing s with
  | nil => rfl
  | cons id ids ih => exact (ih (process_loop s id)).trans (process_loop_main2loop s id i)

/-- The main handler empties the slots of all the loops. -/
theorem process_loops_loop2main (s : System) (i : LoopId) :
    (process_loops s).loop2main i = if i < s.loop_count then none else s.loop2main i := by
  have hfold (ids : List LoopId) (s : System) :
      (ids.foldl process_loop s).loop2main i = if i ∈ ids then none else s.loop2main i := by
    induction ids generalizing s with
    | nil => rfl
    | cons id ids ih =>
      rw [List.foldl_cons, ih, process_loop_loop2main]
      by_cases hmem : i ∈ ids
      · simp [hmem]
      · simp [hmem]
  rw [process_loops, hfold]
  simp

theorem foldl_process_loop_of_empty {s : System} {ids : List LoopId}
    (hempty : ∀ i ∈ ids, s.loop2main i = none) : ids.foldl process_loop s = s := by
  induction ids with
  | nil => rfl
  | cons id ids ih =>
    rw [List.foldl_cons, process_loop_of_empty (hempty id List.mem_cons_self)]
    exact ih fun i hmem => hempty i (List.mem_cons_of_mem _ hmem)

theorem process_loops_of_empty {s : System} (hempty : ∀ i < s.loop_count, s.loop2main i = none) :
    process_loops s = s :=
  foldl_process_loop_of_empty fun i hmem => hempty i (List.mem_range.mp hmem)

/-- When one loop at most has something to say, only its message matters. -/
theorem process_loops_eq {s : System} {a : LoopId} (ha : a < s.loop_count)
    (hquiet : ∀ i < s.loop_count, i ≠ a → s.loop2main i = none) :
    process_loops s = process_loop s a := by
  have hfold (ids : List LoopId) (hnodup : ids.Nodup) (hmem : a ∈ ids)
      (hempty : ∀ i ∈ ids, i ≠ a → s.loop2main i = none) :
      ids.foldl process_loop s = process_loop s a := by
    induction ids with
    | nil => cases hmem
    | cons id ids ih =>
      obtain ⟨hfirst, hnodup⟩ := List.nodup_cons.mp hnodup
      rw [List.foldl_cons]
      by_cases hid : id = a
      · subst hid
        apply foldl_process_loop_of_empty
        intro i hmem
        have hne : i ≠ id := fun heq => hfirst (heq ▸ hmem)
        rw [process_loop_loop2main, if_neg hne]
        exact hempty i (List.mem_cons_of_mem _ hmem) hne
      · rw [process_loop_of_empty (hempty id (by simp) hid)]
        refine ih hnodup ?_ fun i hmem => hempty i (List.mem_cons_of_mem _ hmem)
        exact (List.mem_cons.mp hmem).resolve_left fun heq => hid heq.symm
  refine hfold _ List.nodup_range (List.mem_range.mpr ha) fun i hmem => ?_
  exact hquiet i (List.mem_range.mp hmem)


@[simp] theorem process_datalogging_logic_loop2main (s : System) (i : LoopId) :
    (process_datalogging_logic s).loop2main i = s.loop2main i := by
  unfold process_datalogging_logic offer_ownership send_commands
  simp only
  repeat' split
  all_goals simp

/-- The datalogger itself is not touched by the exchange of messages, apart from its
reset when it is released. -/
@[simp] theorem process_datalogging_logic_datalogger (s : System) :
    (process_datalogging_logic s).datalogger = s.datalogger := by
  unfold process_datalogging_logic offer_ownership send_commands
  simp only
  repeat' split
  all_goals rfl

theorem process_datalogging_logic_of_error {s : System} (herror : s.datalogging.error ≠ .NoError) :
    process_datalogging_logic s = s := by
  rw [process_datalogging_logic, if_pos herror]

theorem process_datalogging_logic_of_free {s : System} (herror : s.datalogging.error = .NoError)
    (howner : s.datalogging.owner = none) :
    process_datalogging_logic s = offer_ownership s := by
  rw [process_datalogging_logic, if_neg (not_not.mpr herror), howner]

theorem process_datalogging_logic_of_owner {s : System} {a : LoopId}
    (herror : s.datalogging.error = .NoError) (howner : s.datalogging.owner = some a) :
    process_datalogging_logic s = send_commands s a := by
  rw [process_datalogging_logic, if_neg (not_not.mpr herror), howner]

theorem process_loop_keeps (s : System) (id : LoopId) :
    (process_loop s id).datalogging.new_owner = s.datalogging.new_owner ∧
      (process_loop s id).datalogger.m_owner = s.datalogger.m_owner := by
  cases hmsg : s.loop2main id with
  | none =>
    rw [process_loop_of_empty hmsg]
    exact ⟨rfl, rfl⟩
  | some msg =>
    rw [process_loop_of_message hmsg]
    cases msg with
    | DATALOGGER_OWNERSHIP_TAKEN => exact ⟨rfl, rfl⟩
    | DATALOGGER_OWNERSHIP_RELEASED => exact ⟨rfl, rfl⟩
    | DATALOGGER_DATA_ACQUIRED => exact ⟨rfl, rfl⟩
    | DATALOGGER_STATUS_UPDATE update => exact ⟨rfl, rfl⟩

/-- Of the datalogger, a message changes nothing, or resets it. -/
theorem process_loop_datalogger (s : System) (id : LoopId) :
    (process_loop s id).datalogger = s.datalogger ∨
      (process_loop s id).datalogger = s.datalogger.reset := by
  cases hmsg : s.loop2main id with
  | none =>
    rw [process_loop_of_empty hmsg]
    exact .inl rfl
  | some msg =>
    rw [process_loop_of_message hmsg]
    cases msg with
    | DATALOGGER_OWNERSHIP_RELEASED => exact .inr rfl
    | DATALOGGER_OWNERSHIP_TAKEN => exact .inl rfl
    | DATALOGGER_DATA_ACQUIRED => exact .inl rfl
    | DATALOGGER_STATUS_UPDATE update => exact .inl rfl

/-- The messages of the loops change neither who runs the datalogger nor who is to. -/
theorem process_loops_keeps (s : System) :
    (process_loops s).datalogging.new_owner = s.datalogging.new_owner ∧
      (process_loops s).datalogger.m_owner = s.datalogger.m_owner := by
  unfold process_loops
  generalize List.range s.loop_count = ids
  induction ids generalizing s with
  | nil => exact ⟨rfl, rfl⟩
  | cons id ids ih =>
    obtain ⟨hnew_owner, hdatalogger⟩ := process_loop_keeps s id
    obtain ⟨hnew_owner', hdatalogger'⟩ := ih (process_loop s id)
    exact ⟨hnew_owner'.trans hnew_owner, hdatalogger'.trans hdatalogger⟩

/-- Whether the main handler can offer the datalogger to a loop, and to which. -/
def offered_to (s : System) : Option LoopId :=
  s.datalogging.new_owner.filter fun b => (s.main2loop b).isNone

theorem offered_to_eq_some {s : System} {b : LoopId} :
    offered_to s = some b ↔ s.datalogging.new_owner = some b ∧ s.main2loop b = none := by
  simp [offered_to, Option.filter_eq_some_iff]

/-- What is different once the datalogger was offered, or not. -/
theorem offer_ownership_spec (s : System) :
    (offer_ownership s).datalogging = { s.datalogging with
      threadsafe_data := { s.datalogging.threadsafe_data with
        datalogger_state := s.datalogger.get_state }
      request_arm_trigger := false
      request_disarm_trigger := false
      new_owner := if offered_to s = none then s.datalogging.new_owner else none } ∧
    ∀ i, (offer_ownership s).main2loop i =
      if offered_to s = some i then some .TAKE_DATALOGGER_OWNERSHIP else s.main2loop i := by
  unfold offer_ownership offered_to
  simp only
  cases hnew : s.datalogging.new_owner with
  | none => exact ⟨by simp, fun i => by simp⟩
  | some b =>
    cases hslot : s.main2loop b with
    | none =>
      refine ⟨by simp [hslot], fun i => ?_⟩
      simp only [Option.isNone_none, if_true, System.set_datalogging_main2loop,
        System.send_main2loop, Option.filter_some, hslot, Option.some.injEq]
      by_cases hi : i = b
      · simp [hi]
      · simp [hi, Ne.symm hi]
    | some msg =>
      have hrefused : (some b).filter (fun b => (s.main2loop b).isNone) = none := by
        simp [hslot]
      rw [hrefused]
      exact ⟨by simp [hslot], fun i => by simp [hslot]⟩

/-- Whether the main handler has something to tell the owner, and what. -/
def next_command (s : System) : Option Main2LoopMessage :=
  if s.datalogging.request_ownership_release then some .RELEASE_DATALOGGER_OWNERSHIP
  else if s.datalogging.request_arm_trigger then some .DATALOGGER_ARM_TRIGGER
  else if s.datalogging.request_disarm_trigger then some .DATALOGGER_DISARM_TRIGGER
  else none

theorem next_command_ne_take (s : System) :
    next_command s ≠ some .TAKE_DATALOGGER_OWNERSHIP := by
  unfold next_command
  repeat' split
  all_goals simp

/-- The requests left once one was sent. -/
def without_command (self : Datalogging) : Option Main2LoopMessage → Datalogging
  | some .RELEASE_DATALOGGER_OWNERSHIP =>
    { self with request_ownership_release := false, pending_ownership_release := true }
  | some .DATALOGGER_ARM_TRIGGER => { self with request_arm_trigger := false }
  | some .DATALOGGER_DISARM_TRIGGER => { self with request_disarm_trigger := false }
  | _ => self

theorem send_commands_busy {s : System} {a : LoopId} (hbusy : s.main2loop a ≠ none) :
    send_commands s a = s := by
  rw [send_commands, if_pos (Option.isSome_iff_ne_none.mpr hbusy)]

theorem send_commands_room {s : System} {a : LoopId} (hroom : s.main2loop a = none) :
    (send_commands s a).datalogging = without_command s.datalogging (next_command s) ∧
      ∀ i, (send_commands s a).main2loop i = if i = a then next_command s else s.main2loop i := by
  have hempty : ¬ (s.main2loop a).isSome = true := by simp [hroom]
  unfold send_commands next_command
  simp only [if_neg hempty]
  repeat' split
  · exact ⟨rfl, fun i => by simp⟩
  · exact ⟨rfl, fun i => by simp⟩
  · exact ⟨rfl, fun i => by simp⟩
  · refine ⟨rfl, fun i => ?_⟩
    split
    · rename_i hi
      rw [hi, hroom]
    · rfl

theorem send_commands_main2loop_of_ne {s : System} {a i : LoopId} (hne : i ≠ a) :
    (send_commands s a).main2loop i = s.main2loop i := by
  by_cases hroom : s.main2loop a = none
  · rw [(send_commands_room hroom).2, if_neg hne]
  · rw [send_commands_busy hroom]

omit [Platform] in
theorem without_command_frame (self : Datalogging) (command : Option Main2LoopMessage) :
    (without_command self command).owner = self.owner ∧
      (without_command self command).new_owner = self.new_owner ∧
      (without_command self command).error = self.error ∧
      (without_command self command).datalogger = self.datalogger := by
  unfold without_command
  split <;> exact ⟨rfl, rfl, rfl, rfl⟩

/-- The main handler takes back no offer, and makes one at most. -/
theorem process_datalogging_logic_take (s : System) (i : LoopId) :
    (process_datalogging_logic s).main2loop i = some .TAKE_DATALOGGER_OWNERSHIP ↔
      s.main2loop i = some .TAKE_DATALOGGER_OWNERSHIP ∨
        s.datalogging.error = .NoError ∧ s.datalogging.owner = none ∧ offered_to s = some i := by
  by_cases herror : s.datalogging.error = .NoError
  · cases howner : s.datalogging.owner with
    | none =>
      rw [process_datalogging_logic_of_free herror howner, (offer_ownership_spec s).2]
      split
      · rename_i hoffer
        simp [herror, hoffer]
      · rename_i hoffer
        simp [hoffer]
    | some a =>
      rw [process_datalogging_logic_of_owner herror howner]
      by_cases hroom : s.main2loop a = none
      · rw [(send_commands_room hroom).2]
        split
        · rename_i hi
          simp [hi, hroom, next_command_ne_take s]
        · simp
      · rw [send_commands_busy hroom]
        simp
  · rw [process_datalogging_logic_of_error herror]
    simp [herror]

/-- A next owner that is waiting gets its offer, unless its slot is taken by something else. -/
theorem new_owner_eq_none_of_no_offer {s : System} (herror : s.datalogging.error = .NoError)
    (howner : s.datalogging.owner = none)
    (hslot : ∀ c, s.datalogging.new_owner = some c →
      s.main2loop c = none ∨ s.main2loop c = some .TAKE_DATALOGGER_OWNERSHIP)
    (hnone : ∀ c, s.datalogging.new_owner = some c →
      (process_datalogging_logic s).main2loop c ≠ some .TAKE_DATALOGGER_OWNERSHIP) :
    s.datalogging.new_owner = none := by
  by_contra hsome
  obtain ⟨c, hc⟩ := Option.ne_none_iff_exists'.mp hsome
  refine hnone c hc ((process_datalogging_logic_take s c).mpr ?_)
  rcases hslot c hc with hroom | htake
  · exact .inr ⟨herror, howner, offered_to_eq_some.mpr ⟨hc, hroom⟩⟩
  · exact .inl htake

theorem process_datalogging_logic_owner (s : System) :
    (process_datalogging_logic s).datalogging.owner = s.datalogging.owner ∧
      (process_datalogging_logic s).datalogging.error = s.datalogging.error := by
  by_cases herror : s.datalogging.error = .NoError
  · cases howner : s.datalogging.owner with
    | none =>
      rw [process_datalogging_logic_of_free herror howner, (offer_ownership_spec s).1]
      exact ⟨howner, rfl⟩
    | some a =>
      rw [process_datalogging_logic_of_owner herror howner]
      by_cases hroom : s.main2loop a = none
      · obtain ⟨howner', _, herror', _⟩ := without_command_frame s.datalogging (next_command s)
        rw [(send_commands_room hroom).1]
        exact ⟨howner'.trans howner, herror'⟩
      · rw [send_commands_busy hroom]
        exact ⟨howner, rfl⟩
  · rw [process_datalogging_logic_of_error herror]
    exact ⟨rfl, rfl⟩

/-- The next owner is chosen by a request only. -/
theorem process_datalogging_logic_new_owner {s : System} {c : LoopId}
    (hchosen : (process_datalogging_logic s).datalogging.new_owner = some c) :
    s.datalogging.new_owner = some c := by
  by_cases herror : s.datalogging.error = .NoError
  · cases howner : s.datalogging.owner with
    | none =>
      rw [process_datalogging_logic_of_free herror howner, (offer_ownership_spec s).1] at hchosen
      simp only at hchosen
      split at hchosen
      · exact hchosen
      · cases hchosen
    | some a =>
      rw [process_datalogging_logic_of_owner herror howner] at hchosen
      by_cases hroom : s.main2loop a = none
      · rw [(send_commands_room hroom).1] at hchosen
        rwa [(without_command_frame s.datalogging (next_command s)).2.1] at hchosen
      · rwa [send_commands_busy hroom] at hchosen
  · rwa [process_datalogging_logic_of_error herror] at hchosen

/-- The datalogging and the loops are not touched. -/
structure DataloggingFrame (before after : System) : Prop where
  datalogging : after.datalogging = before.datalogging
  loops : after.loops = before.loops
  config : after.main.m_config = before.main.m_config

namespace DataloggingFrame

variable {before after : System}

theorem datalogger (h : DataloggingFrame before after) : after.datalogger = before.datalogger :=
  congrArg Datalogging.datalogger h.datalogging

theorem loop_count (h : DataloggingFrame before after) : after.loop_count = before.loop_count :=
  congrArg (fun m_config : Config => m_config.m_loop_count.toNat) h.config

theorem main2loop (h : DataloggingFrame before after) : after.main2loop = before.main2loop := by
  unfold System.main2loop
  rw [h.loops]

theorem loop2main (h : DataloggingFrame before after) : after.loop2main = before.loop2main := by
  unfold System.loop2main
  rw [h.loops]

end DataloggingFrame

/-- The system once `process` updated the timebase and the comm handler. -/
def ticked (s : System) (timestep_100ns : timediff_t) : System :=
  let m_timebase := s.main.m_timebase.step timestep_100ns
  { s with main := { s.main with
    m_timebase
    m_comm_handler := s.main.m_comm_handler.process m_timebase } }

theorem begin_process_eq (s : System) (timestep_100ns : timediff_t) :
    begin_process s timestep_100ns =
      process_datalogging_logic (process_loops (ticked s timestep_100ns)) := rfl

theorem ticked_frame (s : System) (timestep_100ns : timediff_t) :
    DataloggingFrame s (ticked s timestep_100ns) := ⟨rfl, rfl, rfl⟩

theorem begin_process_loop_count (s : System) (timestep_100ns : timediff_t) :
    (begin_process s timestep_100ns).loop_count = s.loop_count :=
  (exchange_frame (ticked s timestep_100ns)).loop_count

theorem begin_process_loop2main (s : System) (timestep_100ns : timediff_t) (i : LoopId) :
    (begin_process s timestep_100ns).loop2main i =
      if i < s.loop_count then none else s.loop2main i := by
  rw [begin_process_eq, process_datalogging_logic_loop2main, process_loops_loop2main]
  rfl

/-- The system once `process` finished with the request. -/
def finished (s : System) : System := { s with main := s.main.check_finished_sending }

theorem end_process_eq (s : System) :
    end_process s = process_datalogging_logic (process_loops (finished s)) := rfl

theorem finished_frame (s : System) : DataloggingFrame s (finished s) :=
  ⟨(check_finished_sending_frame s.main).1, rfl, (check_finished_sending_frame s.main).2⟩

/-- A call of `process` offers the datalogger before it returns. -/
theorem end_process_main2loop_of_offer {s : System} (herror : s.datalogging.error = .NoError)
    (howner : s.datalogging.owner = none) (hsilent : ∀ i < s.loop_count, s.loop2main i = none)
    {c : LoopId} (hoffer : offered_to s = some c) (i : LoopId) :
    (end_process s).main2loop i =
      if i = c then some .TAKE_DATALOGGER_OWNERSHIP else s.main2loop i := by
  have hframe := finished_frame s
  have hquiet : process_loops (finished s) = finished s := by
    refine process_loops_of_empty fun i hi => ?_
    rw [hframe.loop2main]
    exact hsilent i (hframe.loop_count ▸ hi)
  have hoffered : offered_to (finished s) = some c := by
    rw [offered_to_eq_some] at hoffer ⊢
    rw [hframe.datalogging, hframe.main2loop]
    exact hoffer
  have hend : end_process s = offer_ownership (finished s) := by
    rw [end_process_eq, hquiet]
    exact process_datalogging_logic_of_free (hframe.datalogging ▸ herror)
      (hframe.datalogging ▸ howner)
  rw [hend, (offer_ownership_spec (finished s)).2, hoffered, hframe.main2loop]
  simp only [Option.some.injEq, eq_comm]

end MainHandler

end scrutiny
