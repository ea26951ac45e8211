import Scrutiny.Ownership.Finality

open foundation

namespace scrutiny

open datalogging protocol

variable [Platform]

open MainHandler LoopHandler

/-- A loop that was told to take the datalogger is not its owner yet. -/
structure Claiming (s : System) : Prop where
  owner : ∀ i < s.loop_count, s.datalogging.owner = some i →
    s.main2loop i ≠ some .TAKE_DATALOGGER_OWNERSHIP ∧
      s.loop2main i ≠ some .DATALOGGER_OWNERSHIP_TAKEN
  taken : ∀ i < s.loop_count, s.loop2main i = some .DATALOGGER_OWNERSHIP_TAKEN →
    s.main2loop i ≠ some .TAKE_DATALOGGER_OWNERSHIP

namespace Claiming

variable {s : System}

theorem frame (h : Claiming s) {s' : System} (hframe : DataloggingFrame s s') : Claiming s' := by
  refine ⟨?_, ?_⟩
  · rw [hframe.datalogging, hframe.loop_count, hframe.main2loop, hframe.loop2main]
    exact h.owner
  · rw [hframe.loop_count, hframe.main2loop, hframe.loop2main]
    exact h.taken

theorem process_loop (h : Claiming s) (id : LoopId) :
    Claiming (MainHandler.process_loop s id) := by
  have hcount := (process_loop_frame s id).loop_count
  have htaken {i : LoopId} (hi : (MainHandler.process_loop s id).loop2main i =
      some .DATALOGGER_OWNERSHIP_TAKEN) : s.loop2main i = some .DATALOGGER_OWNERSHIP_TAKEN := by
    rw [process_loop_loop2main] at hi
    split at hi
    · cases hi
    · exact hi
  refine ⟨?_, ?_⟩
  · rw [hcount]
    intro i hi howner
    rw [process_loop_main2loop]
    -- The owner is the one before, or the loop that just said it took the datalogger.
    have hcases : s.datalogging.owner = some i ∨
        i = id ∧ s.loop2main i = some .DATALOGGER_OWNERSHIP_TAKEN := by
      cases hmsg : s.loop2main id with
      | none =>
        rw [process_loop_of_empty hmsg] at howner
        exact .inl howner
      | some msg =>
        rw [process_loop_of_message hmsg, System.set_datalogging_datalogging] at howner
        cases msg with
        | DATALOGGER_OWNERSHIP_TAKEN =>
          obtain rfl := Option.some.inj howner
          exact .inr ⟨rfl, hmsg⟩
        | DATALOGGER_OWNERSHIP_RELEASED => cases howner
        | DATALOGGER_DATA_ACQUIRED => exact .inl howner
        | DATALOGGER_STATUS_UPDATE update => exact .inl howner
    rcases hcases with hbefore | ⟨rfl, hsaid⟩
    · exact ⟨(h.owner i hi hbefore).1, fun hi' => (h.owner i hi hbefore).2 (htaken hi')⟩
    · refine ⟨h.taken i hi hsaid, ?_⟩
      rw [process_loop_loop2main, if_pos rfl]
      nofun
  · rw [hcount]
    intro i hi hsaid
    rw [process_loop_main2loop]
    exact h.taken i hi (htaken hsaid)

theorem process_datalogging_logic (h : Claiming s)
    (hsilent : ∀ i < s.loop_count, s.loop2main i = none) :
    Claiming (MainHandler.process_datalogging_logic s) := by
  have hcount := (process_datalogging_logic_frame s).loop_count
  have hsaid (i : LoopId) (hi : i < s.loop_count) :
      (MainHandler.process_datalogging_logic s).loop2main i ≠
        some .DATALOGGER_OWNERSHIP_TAKEN := by
    rw [process_datalogging_logic_loop2main, hsilent i hi]
    nofun
  refine ⟨?_, ?_⟩
  · rw [hcount, (process_datalogging_logic_owner s).1]
    intro i hi howner
    refine ⟨fun htake => ?_, hsaid i hi⟩
    rcases (process_datalogging_logic_take s i).mp htake with hbefore | ⟨_, hfree, _⟩
    · exact (h.owner i hi howner).1 hbefore
    · cases hfree.symm.trans howner
  · rw [hcount]
    exact fun i hi htaken => absurd htaken (hsaid i hi)

theorem serve_request (h : Claiming s) (stack : Stack) :
    Claiming (MainHandler.serve_request s stack) := by
  refine ⟨?_, ?_⟩
  · rw [(serve_request_ownership s stack).1, serve_request_loop_count, serve_request_main2loop,
      serve_request_loop2main]
    exact h.owner
  · rw [serve_request_loop_count, serve_request_main2loop, serve_request_loop2main]
    exact h.taken

theorem process_common (h : Claiming s) (id : LoopId) (timestep_100ns : timediff_t) :
    Claiming (LoopHandler.process_common s id timestep_100ns) := by
  have hcount := process_common_loop_count s id timestep_100ns
  have htake {i : LoopId} (hi : (LoopHandler.process_common s id timestep_100ns).main2loop i =
      some .TAKE_DATALOGGER_OWNERSHIP) : s.main2loop i = some .TAKE_DATALOGGER_OWNERSHIP := by
    rw [process_common_main2loop] at hi
    split at hi
    · cases hi
    · exact hi
  -- A claim that was not there before is the answer to the message that was in the slot.
  have hclaim {i : LoopId} (hi : (LoopHandler.process_common s id timestep_100ns).loop2main i =
      some .DATALOGGER_OWNERSHIP_TAKEN) : s.loop2main i = some .DATALOGGER_OWNERSHIP_TAKEN ∨
        s.main2loop i = some .TAKE_DATALOGGER_OWNERSHIP ∧
          (LoopHandler.process_common s id timestep_100ns).main2loop i = none := by
    by_cases hne : i = id
    · subst hne
      rcases process_common_loop2main s i timestep_100ns with hsaid | ⟨_, _, msg, hreport, hsaid⟩
      · rw [hsaid, Option.or_eq_some_iff] at hi
        rcases hi with hbefore | ⟨_, hanswer⟩
        · exact .inl hbefore
        · cases hreceived : received s i with
          | none =>
            rw [hreceived] at hanswer
            cases hanswer
          | some msg =>
            rw [hreceived] at hanswer
            have hempty : (LoopHandler.process_common s i timestep_100ns).main2loop i = none := by
              rw [process_common_main2loop, if_pos ⟨rfl, by rw [hreceived]; nofun⟩]
            cases msg with
            | TAKE_DATALOGGER_OWNERSHIP => exact .inr ⟨(received_eq_some hreceived).2, hempty⟩
            | RELEASE_DATALOGGER_OWNERSHIP =>
              simp only [answer_to] at hanswer
              split at hanswer
              · cases hanswer
              · cases hanswer
            | DATALOGGER_ARM_TRIGGER => cases hanswer
            | DATALOGGER_DISARM_TRIGGER => cases hanswer
      · cases hsaid.symm.trans hi
        cases hreport
    · rw [process_common_loop2main_of_ne s id timestep_100ns hne] at hi
      exact .inl hi
  refine ⟨?_, ?_⟩
  · rw [hcount, process_common_datalogging s id timestep_100ns]
    intro i hi howner
    obtain ⟨hoffer, hsaid⟩ := h.owner i hi howner
    refine ⟨fun hi' => hoffer (htake hi'), fun hi' => ?_⟩
    rcases hclaim hi' with hbefore | ⟨hbefore, _⟩
    · exact hsaid hbefore
    · exact hoffer hbefore
  · rw [hcount]
    intro i hi hi' hoffer
    rcases hclaim hi' with hbefore | ⟨_, hempty⟩
    · exact h.taken i hi hbefore (htake hoffer)
    · cases hempty.symm.trans hoffer

theorem invariant : System.Inductive Claiming fun _ => True where
  frame _ _ hframe h := h.frame hframe
  message _ id _ h := h.process_loop id
  logic _ hsilent h := h.process_datalogging_logic hsilent
  request _ stack _ _ h := h.serve_request stack
  loop _ id timestep_100ns _ h := h.process_common id timestep_100ns

end Claiming

namespace MainHandler

section

variable {s : System} {a : LoopId}

/-- A loop that is not the owner only becomes it by saying that it took the datalogger. -/
theorem process_loop_not_owner (howner : s.datalogging.owner ≠ some a)
    (hsaid : s.loop2main a ≠ some .DATALOGGER_OWNERSHIP_TAKEN) (id : LoopId) :
    (process_loop s id).datalogging.owner ≠ some a := by
  cases hmsg : s.loop2main id with
  | none =>
    rw [process_loop_of_empty hmsg]
    exact howner
  | some msg =>
    rw [process_loop_of_message hmsg, System.set_datalogging_datalogging]
    cases msg with
    | DATALOGGER_OWNERSHIP_TAKEN =>
      intro hsame
      obtain rfl := Option.some.inj hsame
      exact hsaid hmsg
    | DATALOGGER_OWNERSHIP_RELEASED => nofun
    | DATALOGGER_DATA_ACQUIRED => exact howner
    | DATALOGGER_STATUS_UPDATE update => exact howner

theorem process_loop_said (hsaid : s.loop2main a ≠ some .DATALOGGER_OWNERSHIP_TAKEN)
    (id : LoopId) : (process_loop s id).loop2main a ≠ some .DATALOGGER_OWNERSHIP_TAKEN := by
  rw [process_loop_loop2main]
  split
  · nofun
  · exact hsaid

theorem foldl_process_loop_not_owner (ids : List LoopId) (howner : s.datalogging.owner ≠ some a)
    (hsaid : s.loop2main a ≠ some .DATALOGGER_OWNERSHIP_TAKEN) :
    (ids.foldl process_loop s).datalogging.owner ≠ some a := by
  induction ids generalizing s with
  | nil => exact howner
  | cons id ids ih =>
    exact ih (process_loop_not_owner howner hsaid id) (process_loop_said hsaid id)

/-- The message of a loop, when it leaves the owner in place, is a report. -/
theorem process_loop_kept (howner : s.datalogging.owner = some a)
    (hsaid : s.loop2main a ≠ some .DATALOGGER_OWNERSHIP_TAKEN) {id : LoopId}
    (hkept : (process_loop s id).datalogging.owner = some a) :
    ∃ threadsafe_data reading_in_progress, (process_loop s id).datalogging = { s.datalogging with
      threadsafe_data := threadsafe_data
      reading_in_progress := reading_in_progress } := by
  cases hmsg : s.loop2main id with
  | none =>
    rw [process_loop_of_empty hmsg]
    exact ⟨_, _, rfl⟩
  | some msg =>
    rw [process_loop_of_message hmsg, System.set_datalogging_datalogging] at hkept ⊢
    cases msg with
    | DATALOGGER_OWNERSHIP_TAKEN =>
      obtain rfl := Option.some.inj hkept
      exact absurd hmsg hsaid
    | DATALOGGER_OWNERSHIP_RELEASED => cases hkept
    | DATALOGGER_DATA_ACQUIRED => exact ⟨_, _, rfl⟩
    | DATALOGGER_STATUS_UPDATE update => exact ⟨_, _, rfl⟩

/-- While the owner stays in place, the loops only report. -/
theorem process_loops_kept (howner : s.datalogging.owner = some a)
    (hsaid : s.loop2main a ≠ some .DATALOGGER_OWNERSHIP_TAKEN)
    (hkept : (process_loops s).datalogging.owner = some a) :
    ∃ threadsafe_data reading_in_progress, (process_loops s).datalogging = { s.datalogging with
      threadsafe_data := threadsafe_data
      reading_in_progress := reading_in_progress } := by
  have hfold (ids : List LoopId) (s : System) (howner : s.datalogging.owner = some a)
      (hsaid : s.loop2main a ≠ some .DATALOGGER_OWNERSHIP_TAKEN)
      (hkept : (ids.foldl process_loop s).datalogging.owner = some a) :
      ∃ threadsafe_data reading_in_progress, (ids.foldl process_loop s).datalogging =
        { s.datalogging with
          threadsafe_data := threadsafe_data
          reading_in_progress := reading_in_progress } := by
    induction ids generalizing s with
    | nil => exact ⟨_, _, rfl⟩
    | cons id ids ih =>
      have hstays : (process_loop s id).datalogging.owner = some a := by
        by_contra hlost
        exact foldl_process_loop_not_owner ids hlost (process_loop_said hsaid id) hkept
      obtain ⟨_, _, hfirst⟩ := process_loop_kept howner hsaid hstays
      obtain ⟨threadsafe_data, reading, hrest⟩ :=
        ih (process_loop s id) hstays (process_loop_said hsaid id) hkept
      refine ⟨threadsafe_data, reading, ?_⟩
      rw [List.foldl_cons, hrest, hfirst]
  exact hfold _ s howner hsaid hkept

/-- The parts of a call of `process` whose owner is the loop at both ends. -/
structure Kept (a : LoopId) (s : System) (timestep_100ns : timediff_t) (stack : Stack) :
    Prop where
  noted : (process_loops (ticked s timestep_100ns)).datalogging.owner = some a
  begun : (begin_process s timestep_100ns).datalogging.owner = some a
  served : (serve_request (begin_process s timestep_100ns) stack).datalogging.owner = some a
  silent : process_loops (finished (serve_request (begin_process s timestep_100ns) stack)) =
    finished (serve_request (begin_process s timestep_100ns) stack)

/-- When the loop is the owner after a call of `process`, it was the owner all along. -/
theorem process_kept (hready : s.main.Ready) {timestep_100ns : timediff_t} {stack : Stack}
    (hafter : (System.step s (.process timestep_100ns stack)).datalogging.owner = some a) :
    Kept a s timestep_100ns stack := by
  let begun := begin_process s timestep_100ns
  let handled := serve_request begun stack
  have hsilent : process_loops (finished handled) = finished handled := by
    refine process_loops_of_empty fun i hi => ?_
    rw [(finished_frame _).loop_count, serve_request_loop_count, begin_process_loop_count] at hi
    rw [(finished_frame _).loop2main, serve_request_loop2main, begin_process_loop2main, if_pos hi]
  rw [System.step, process_eq hready.enabled, end_process_eq, hsilent,
    (process_datalogging_logic_owner _).1, (finished_frame _).datalogging] at hafter
  have hbegun : begun.datalogging.owner = some a :=
    (serve_request_ownership begun stack).1.symm.trans hafter
  exact ⟨(process_datalogging_logic_owner _).1.symm.trans hbegun, hbegun, hafter, hsilent⟩

end

end MainHandler

namespace System

/-- The loop runs the datalogger, and the main handler knows it as the owner. -/
structure OwnedBy (a : LoopId) (s : System) : Prop where
  datalogger : s.datalogger.m_owner = some a
  owner : s.datalogging.owner = some a

instance (a : LoopId) (s : System) : Decidable (OwnedBy a s) :=
  decidable_of_iff (s.datalogger.m_owner = some a ∧ s.datalogging.owner = some a)
    ⟨fun h => ⟨h.1, h.2⟩, fun h => ⟨h.1, h.2⟩⟩

theorem initial_claiming {s : System} (hinitial : Initial s) : Claiming s := by
  have htracks := initial_tracks hinitial
  refine ⟨fun i _ howner => ?_, fun i hi hsaid => ?_⟩
  · cases howner.symm.trans htracks.owner
  · cases hsaid.symm.trans (htracks.loop2main i hi)

theorem Reachable.claiming {s : System} (h : Reachable s) : Claiming s :=
  (Claiming.invariant.reachable (fun _ hinitial => initial_claiming hinitial) h).2

end System

end scrutiny
