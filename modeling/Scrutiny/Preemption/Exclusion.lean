import Scrutiny.Preemption.Token
import Scrutiny.Acquisition.Configuration

open foundation

namespace scrutiny

open datalogging protocol

section

variable [Platform]

/-- Of the datalogger, at most the position of its reader is different. -/
def DataLogger.OnlyRead (before after : DataLogger) : Prop :=
  ∃ m_reader, after = { before with m_encoder := before.m_encoder.set_reader m_reader }

omit [Platform] in
theorem DataLogger.OnlyRead.refl (d : DataLogger) : OnlyRead d d := ⟨d.m_encoder.m_reader, rfl⟩

namespace MainHandler

/-- The requests that do not write the datalogger only read it. -/
theorem serve_request_only_read {s : System} (hwrites : ¬ writes_datalogger s) (stack : Stack) :
    DataLogger.OnlyRead s.datalogger (serve_request s stack).datalogger := by
  obtain ⟨response, hdatalogging⟩ := serve_request_datalogging s stack
  have hdatalogger : (serve_request s stack).datalogger =
      (serve_request s stack).datalogging.datalogger := rfl
  rw [hdatalogger, hdatalogging]
  cases hserved : served s with
  | none => exact .refl _
  | some subfunction =>
    cases subfunction with
    | ConfigureDatalog => exact absurd (.inl hserved) hwrites
    | ResetDatalogger => exact absurd (.inr hserved) hwrites
    | ArmTrigger =>
      unfold arm_trigger
      simp only
      split
      · exact .refl _
      · exact .refl _
    | DisarmTrigger =>
      unfold disarm_trigger
      simp only
      split
      · exact .refl _
      · exact .refl _
    | ReadAcquisition => exact read_acquisition_datalogger s.datalogging response
    | GetSetup | GetStatus | GetAcquisitionMetadata => exact .refl _

end MainHandler

theorem MainHandler.served_of_accepted {s : System} {c : LoopId}
    (haccepted : accepted_configuration s = some c) : served s = some .ConfigureDatalog := by
  unfold accepted_configuration at haccepted
  split at haccepted
  · rename_i hserved
    exact hserved.1
  · cases haccepted

/-- A request that writes the datalogger, and finds no owner, finds it at rest. -/
def ServedAtRest (s : System) : Part → Prop
  | .request _ => MainHandler.writes_datalogger s → s.datalogging.owner = none → s.AtRest
  | .loop _ _ | .logic _ | .response | .finish => True

instance (s : System) : Decidable s.AtRest := inferInstanceAs (Decidable (_ ∧ _))

instance (s : System) (part : Part) : Decidable (ServedAtRest s part) :=
  match part with
  | .request _ => inferInstanceAs (Decidable (MainHandler.writes_datalogger s →
      s.datalogging.owner = none → s.AtRest))
  | .loop _ _ | .logic _ | .response | .finish => inferInstanceAs (Decidable True)

/-- A loop only runs the datalogger when it owns it or is offered it, and the main handler
only writes it at rest. -/
def UsedByOne (p : Progress System Part) : Act MainCall Interrupt → Prop
  | .interrupt (.loop_process id timestep_100ns) =>
    (preemptible.step p (.interrupt (.loop_process id timestep_100ns))).state.datalogger =
        p.state.datalogger ∨
      p.state.datalogger.m_owner = some id ∨
        p.state.main2loop id = some .TAKE_DATALOGGER_OWNERSHIP
  | act =>
    DataLogger.OnlyRead p.state.datalogger (preemptible.step p act).state.datalogger ∨
      p.state.AtRest

/-- What holds between two parts of `process`. -/
structure BetweenParts (s : System) (next : Option Part) : Prop where
  enabled : s.main.m_enabled = true
  tracked : ∃ phase, Interleaved phase s
  turn : ∀ pass id, next = some (.loop pass id) → id < s.loop_count

namespace BetweenParts

open MainHandler LoopHandler

variable {s : System} {next : Option Part}

theorem next_turn_lt {pass pass' : Pass} {id id' : LoopId}
    (hturn : some (next_turn s pass id) = some (Part.loop pass' id')) : id' < s.loop_count := by
  unfold next_turn at hturn
  split at hturn
  · rename_i hid
    cases hturn
    exact hid
  · cases hturn

/-- A part that is followed by no turn of `process_loops`. -/
theorem keep (h : BetweenParts s next) {s' : System} {next' : Option Part}
    (henabled : s'.main.m_enabled = s.main.m_enabled) (htracked : ∃ phase, Interleaved phase s')
    (hnext : ∀ pass id, next' ≠ some (.loop pass id)) : BetweenParts s' next' :=
  ⟨henabled.trans h.enabled, htracked, fun pass id hturn => absurd hturn (hnext pass id)⟩

theorem frame (h : BetweenParts s next) {s' : System} (hframe : DataloggingFrame s s')
    (henabled : s'.main.m_enabled = s.main.m_enabled) : BetweenParts s' next := by
  obtain ⟨phase, hphase⟩ := h.tracked
  refine ⟨henabled.trans h.enabled, ⟨phase, hphase.frame hframe⟩, ?_⟩
  rw [hframe.loop_count]
  exact h.turn

theorem enabled_of_exchange {s' : System} (hframe : ExchangeFrame s s') :
    s'.main.m_enabled = s.main.m_enabled :=
  (congrArg MainHandler.m_enabled hframe.main).trans rfl

theorem finish_request_enabled (s : System) :
    (finish_request s).main.m_enabled = s.main.m_enabled := by
  cases hfinal : final_response s with
  | none =>
    obtain ⟨timestamp, processing, taken, hfinish⟩ := finish_request_none hfinal
    rw [hfinish]
  | some response =>
    rw [finish_request_some hfinal]
    rfl

theorem check_finished_sending_enabled (self : MainHandler) :
    self.check_finished_sending.m_enabled = self.m_enabled := by
  unfold check_finished_sending
  simp only
  repeat' split
  all_goals rfl

theorem start_call (h : BetweenParts s none) (call : MainCall) :
    BetweenParts (MainHandler.start_call s call).1 (MainHandler.start_call s call).2 := by
  cases call with
  | receive_data data len => exact h.frame ⟨rfl, rfl, rfl⟩ rfl
  | pop_data len =>
    have hpopped : BetweenParts (s.set_comm (s.comm.pop_data s.main.m_timebase len).1) none :=
      h.frame ⟨rfl, rfl, rfl⟩ rfl
    exact hpopped.frame (finished_frame _) (check_finished_sending_enabled _)
  | process timestep_100ns stack =>
    have henabled : ¬ s.main.m_enabled = false := by
      rw [h.enabled]
      exact Bool.noConfusion
    rw [MainHandler.start_call, if_neg henabled]
    have hticked := h.frame (ticked_frame s timestep_100ns) rfl
    exact ⟨hticked.enabled, hticked.tracked, fun _ _ hturn => next_turn_lt hturn⟩

theorem execute_part {part : Part} (h : BetweenParts s (some part)) (hrest : ServedAtRest s part) :
    BetweenParts (MainHandler.execute_part s part).1 (MainHandler.execute_part s part).2 := by
  obtain ⟨phase, hphase⟩ := h.tracked
  cases part with
  | loop pass id =>
    obtain ⟨phase', _, hnoted⟩ := hphase.process_loop (h.turn pass id rfl)
    have henabled := enabled_of_exchange (process_loop_frame s id)
    exact ⟨henabled.trans h.enabled, ⟨phase', hnoted⟩, fun _ _ hturn => next_turn_lt hturn⟩
  | logic pass =>
    obtain ⟨phase', _, htold⟩ := hphase.process_datalogging_logic
    refine h.keep (enabled_of_exchange (process_datalogging_logic_frame s)) ⟨phase', htold⟩ ?_
    intro pass' id hturn
    cases pass with
    | before stack => cases hturn
    | after => cases hturn
  | request stack =>
    rw [MainHandler.execute_part]
    split
    · rename_i hrequest
      have hframe := execute_request_frame s stack
      refine h.keep ((congrArg MainHandler.m_enabled hframe.main).trans rfl) ⟨phase, ?_⟩ ?_
      · apply hphase.execute_request hrequest
        intro haccepted
        obtain ⟨c, hc⟩ := Option.ne_none_iff_exists'.mp haccepted
        exact hrest (.inl (served_of_accepted hc)) (accepted_configuration_eq_some hc).1
      · intro pass id hturn
        cases hturn
    · refine h.keep rfl ⟨phase, hphase⟩ ?_
      intro pass id hturn
      cases hturn
  | response =>
    obtain ⟨hloops, _, hdatalogging, hconfig⟩ := finish_request_frame s
    refine h.keep (finish_request_enabled s) ⟨phase, hphase.frame ⟨hdatalogging, hloops, hconfig⟩⟩ ?_
    intro pass id hturn
    cases hturn
  | finish =>
    have hfinished := hphase.frame (finished_frame s)
    exact ⟨(check_finished_sending_enabled s.main).trans h.enabled, ⟨phase, hfinished⟩,
      fun _ _ hturn => next_turn_lt hturn⟩

theorem interrupted (h : BetweenParts s next) (i : Interrupt) :
    BetweenParts (System.step s i.event) next := by
  cases i with
  | application bytes => exact h.frame ⟨rfl, rfl, rfl⟩ rfl
  | loop_process id timestep_100ns =>
    rw [Interrupt.event, System.step]
    split
    · rename_i hid
      obtain ⟨phase, hphase⟩ := h.tracked
      obtain ⟨phase', _, hran⟩ := hphase.process_common hid timestep_100ns
      refine ⟨?_, ⟨phase', hran⟩, ?_⟩
      · exact (congrArg MainHandler.m_enabled
          (process_common_main s id timestep_100ns)).trans h.enabled
      · rw [process_common_loop_count]
        exact h.turn
    · exact h

theorem keeps : preemptible.Keeps BetweenParts ServedAtRest where
  start _ call h := h.start_call call
  resume _ _ hrest h := h.execute_part hrest
  interrupt _ _ i h := h.interrupted i

/-- The main handler resets the datalogger once it was released. -/
theorem process_loop_used (h : BetweenParts s next) {id : LoopId} (hid : id < s.loop_count) :
    (process_loop s id).datalogger = s.datalogger ∨ s.AtRest := by
  obtain ⟨phase, hphase⟩ := h.tracked
  cases hmsg : s.loop2main id with
  | none =>
    rw [process_loop_of_empty hmsg]
    exact .inl rfl
  | some msg =>
    rw [process_loop_of_message hmsg]
    rcases hphase.message_cases hid hmsg with ⟨rfl, rfl⟩ | ⟨rfl, rfl⟩ | ⟨rfl, hreport⟩
    · exact .inl rfl
    · exact .inr ⟨hphase.datalogger_owner, hphase.offers_eq⟩
    · cases msg with
      | DATALOGGER_OWNERSHIP_TAKEN => cases hreport
      | DATALOGGER_OWNERSHIP_RELEASED => cases hreport
      | DATALOGGER_DATA_ACQUIRED => exact .inl rfl
      | DATALOGGER_STATUS_UPDATE update => exact .inl rfl

theorem execute_part_used {part : Part} (h : BetweenParts s (some part))
    (hrest : ServedAtRest s part) :
    DataLogger.OnlyRead s.datalogger (MainHandler.execute_part s part).1.datalogger ∨
      s.AtRest := by
  have hsame {d : DataLogger} (hd : d = s.datalogger) : DataLogger.OnlyRead s.datalogger d := by
    rw [hd]
    exact .refl _
  cases part with
  | loop pass id => exact (h.process_loop_used (h.turn pass id rfl)).imp_left hsame
  | logic pass => exact .inl (hsame (process_datalogging_logic_datalogger s))
  | request stack =>
    rw [MainHandler.execute_part]
    split
    · rename_i hrequest
      have hserved : (MainHandler.execute_request s stack).datalogger =
          (serve_request s stack).datalogger :=
        congrArg Datalogging.datalogger (execute_request_of_served hrequest stack)
      by_cases hwrites : writes_datalogger s
      · by_cases howner : s.datalogging.owner = none
        · exact .inr (hrest hwrites howner)
        · have hkept := serve_request_datalogger_of_owner hwrites howner stack
          exact .inl (hsame (hserved.trans hkept))
      · left
        change DataLogger.OnlyRead s.datalogger (MainHandler.execute_request s stack).datalogger
        rw [hserved]
        exact serve_request_only_read hwrites stack
    · exact .inl (.refl _)
  | response =>
    exact .inl (hsame (congrArg Datalogging.datalogger (finish_request_frame s).2.2.1))
  | finish => exact .inl (hsame (finished_frame s).datalogger)

theorem start_call_used (h : BetweenParts s none) (call : MainCall) :
    (MainHandler.start_call s call).1.datalogger = s.datalogger := by
  cases call with
  | receive_data data len => rfl
  | pop_data len =>
    exact (finished_frame (s.set_comm (s.comm.pop_data s.main.m_timebase len).1)).datalogger
  | process timestep_100ns stack =>
    have henabled : ¬ s.main.m_enabled = false := by
      rw [h.enabled]
      exact Bool.noConfusion
    rw [MainHandler.start_call, if_neg henabled]
    rfl

/-- A loop without the datalogger, and without an offer, leaves it alone. -/
theorem process_common_used (s : System) (id : LoopId) (timestep_100ns : timediff_t) :
    (LoopHandler.process_common s id timestep_100ns).datalogger = s.datalogger ∨
      s.datalogger.m_owner = some id ∨ s.main2loop id = some .TAKE_DATALOGGER_OWNERSHIP := by
  by_cases howner : s.datalogger.m_owner = some id
  · exact .inr (.inl howner)
  · by_cases htake : s.main2loop id = some .TAKE_DATALOGGER_OWNERSHIP
    · exact .inr (.inr htake)
    · left
      have howns : ¬ owns_datalogger id s.datalogger = true :=
        fun howns => howner (of_decide_eq_true howns)
      have hinformed : (informed s id timestep_100ns).datalogger = s.datalogger := by
        rw [informed_datalogger]
        split
        · rename_i hreceived
          exact absurd (received_eq_some hreceived).2 htake
        · exact if_neg howns
        · exact if_neg howns
        · exact if_neg howns
        · rfl
      rw [process_common_eq, run_datalogger, if_neg (by rw [hinformed]; exact howns), hinformed]

theorem used_by_one {p : Progress System Part} (h : BetweenParts p.state p.next)
    {act : Act MainCall Interrupt} (hrest : Interruptible.OnPart ServedAtRest p act) :
    UsedByOne p act := by
  obtain ⟨s, next⟩ := p
  cases act with
  | call call =>
    cases next with
    | none =>
      left
      change DataLogger.OnlyRead s.datalogger (MainHandler.start_call s call).1.datalogger
      rw [h.start_call_used call]
      exact .refl _
    | some part => exact .inl (.refl _)
  | resume =>
    cases next with
    | none => exact .inl (.refl _)
    | some part => exact h.execute_part_used hrest
  | interrupt i =>
    cases i with
    | application bytes => exact .inl (.refl _)
    | loop_process id timestep_100ns =>
      change (System.step s (.loop_process id timestep_100ns)).datalogger = s.datalogger ∨ _
      rw [System.step]
      split
      · exact process_common_used s id timestep_100ns
      · exact .inl rfl

end BetweenParts

namespace System

theorem initial_new_owner {s : System} (hinitial : Initial s) :
    s.datalogging.new_owner = none := by
  obtain ⟨before, m_config, hinit⟩ := hinitial
  unfold MainHandler.init at hinit
  simp only at hinit
  split at hinit
  · simp at hinit
  · split at hinit
    · simp at hinit
    · simp only [Prod.mk.injEq, true_and] at hinit
      subst hinit
      rfl

theorem initial_between_parts {s : System} (hinitial : Initial s) : BetweenParts s none := by
  have htracks := initial_tracks hinitial
  refine ⟨(initial_ready hinitial).enabled, ⟨.free, htracks.toInPhase, ?_, ?_, ?_, ?_⟩, ?_⟩
  · intro b hb
    cases (initial_new_owner hinitial).symm.trans hb
  · intro i hi
    rw [htracks.main2loop i hi]
    exact iff_of_false (Option.some_ne_none _).symm (Option.some_ne_none i).symm
  · intro i hi hrelease
    cases hrelease.symm.trans (htracks.main2loop i hi)
  · intro a ha
    cases ha
  · intro pass id hturn
    cases hturn

/-- Wherever the loops interrupt `process`, the ownership is a single token and no two
contexts use the datalogger, as long as the requests that write it find it at rest. -/
theorem exclusion_under_preemption {s : System} (hinitial : Initial s)
    {acts : List (Act MainCall Interrupt)}
    (hrest : Along preemptible.step (Interruptible.OnPart ServedAtRest) ⟨s, none⟩ acts) :
    Always preemptible.step (fun p => p.state.SingleToken) ⟨s, none⟩ acts ∧
      Along preemptible.step UsedByOne ⟨s, none⟩ acts := by
  have hinv := initial_between_parts hinitial
  constructor
  · refine Always.mono ?_ (always_invariant BetweenParts.keeps.step hinv hrest)
    rintro p ⟨_, ⟨phase, hphase⟩, _⟩
    exact hphase.single_token
  · exact Along.of_invariant BetweenParts.keeps.step
      (fun p act h hguard => BetweenParts.used_by_one h hguard) hinv hrest

end System

end

section

attribute [local instance] host.platform

/-- An event with no interrupt in the middle: the two loops make for nine parts at most. -/
def uninterrupted : Event → List (Act MainCall Interrupt)
  | .receive_data data len => [.call (.receive_data data len)]
  | .pop_data len => [.call (.pop_data len)]
  | .process timestep_100ns stack =>
    .call (.process timestep_100ns stack) :: List.replicate 9 .resume
  | .loop_process id timestep_100ns => [.interrupt (.loop_process id timestep_100ns)]
  | .application bytes => [.interrupt (.application bytes)]

/-- The offer is taken while `process` is between its two passes, and the release that the
next configuration waits for comes between two parts as well. -/
def interrupted_acts : List (Act MainCall Interrupt) :=
  (host.connect ++ host.configure 0 128).flatMap uninterrupted ++
    [.call (.process 0 host.stack), .resume, .resume, .resume,
      .interrupt (.loop_process 0 0), .resume, .resume, .resume] ++
    List.replicate 9 .resume ++
    uninterrupted (host.receive (host.frame 5 2 (host.configuration 1 128))) ++
    (List.replicate 3 [.call (.process 0 host.stack), .resume, .resume, .resume, .resume,
      .interrupt (.loop_process 0 0), .resume, .resume, .resume, .resume, .resume]).flatten ++
    [.interrupt (.loop_process 1 0)]

theorem exclusion_interrupted :
    Always preemptible.step (fun p => p.state.SingleToken) ⟨host.start, none⟩ interrupted_acts ∧
      Along preemptible.step UsedByOne ⟨host.start, none⟩ interrupted_acts :=
  System.exclusion_under_preemption host.initial_start (by decide +kernel)

end

end scrutiny
