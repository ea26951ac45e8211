import Scrutiny.Preemption.Parts
import Scrutiny.Ownership.Exclusive

open foundation

namespace scrutiny

open datalogging protocol

variable [Platform]

/-- The release of the datalogger was asked for, and is not asked for again. -/
def Datalogging.AwaitsRelease (self : Datalogging) : Prop :=
  self.pending_ownership_release = true ∧ self.request_ownership_release = false

namespace MainHandler

omit [Platform] in
theorem request_release_awaits {self : Datalogging} (h : self.AwaitsRelease) :
    (request_release self).AwaitsRelease := by
  rw [request_release, if_pos h.1]
  exact h

theorem configure_datalog_awaits {self : MainHandler} (h : self.m_datalogging.AwaitsRelease)
    (loops : LoopId → LoopHandler) (request : Request) :
    (self.configure_datalog loops request).2.AwaitsRelease := by
  cases howner : self.m_datalogging.owner with
  | some a =>
    rw [configure_datalog_of_owner howner]
    exact request_release_awaits h
  | none =>
    rw [configure_datalog_of_free howner]
    obtain ⟨_, new_owner, hresult, _⟩ := self.configure_datalogger_spec loops request
      { self.m_datalogging with reading_in_progress := false }
    have hattempted : (self.configure_datalogger loops request
        { self.m_datalogging with reading_in_progress := false }).2.AwaitsRelease := by
      rw [hresult]
      exact h
    unfold reset_on_failure
    split
    · exact hattempted
    · exact hattempted

theorem serve_request_awaits {s : System} (h : s.datalogging.AwaitsRelease) (stack : Stack) :
    (serve_request s stack).datalogging.AwaitsRelease := by
  obtain ⟨response, hdatalogging⟩ := serve_request_datalogging s stack
  rw [hdatalogging]
  cases served s with
  | none => exact h
  | some subfunction =>
    cases subfunction with
    | ConfigureDatalog => exact configure_datalog_awaits h s.loops s.comm.m_active_request
    | ArmTrigger =>
      unfold arm_trigger
      simp only
      split
      · exact h
      · exact h
    | DisarmTrigger =>
      unfold disarm_trigger
      simp only
      split
      · exact h
      · exact h
    | ReadAcquisition =>
      unfold read_acquisition start_reading
      simp only
      repeat' split
      all_goals exact h
    | ResetDatalogger =>
      cases howner : s.datalogging.owner with
      | none =>
        simp only [reset_datalogger, howner]
        exact h
      | some a =>
        simp only [reset_datalogger, howner]
        exact request_release_awaits h
    | GetSetup | GetStatus | GetAcquisitionMetadata => exact h

/-- A request and what is done with its answer make one. -/
theorem execute_request_of_served {s : System} (hrequest : has_request s = true) (stack : Stack) :
    (execute_request s stack).datalogging = (serve_request s stack).datalogging := by
  rw [serve_request, if_pos hrequest, (finish_request_frame _).2.2.1]

end MainHandler

/-- The places where the source keeps the ownership agree with one phase of the token, when
the loops may run between the parts of `process`. A loop may find a command to arm or to
disarm that it is too late for. -/
structure Interleaved (phase : Handoff LoopId) (s : System) : Prop extends InPhase phase s where
  new_owner : ∀ b, s.datalogging.new_owner = some b → phase = .free ∧ b < s.loop_count
  take : ∀ i < s.loop_count,
    s.main2loop i = some .TAKE_DATALOGGER_OWNERSHIP ↔ phase.offer = some i
  release : ∀ i < s.loop_count, s.main2loop i = some .RELEASE_DATALOGGER_OWNERSHIP →
    phase = .owned i ∧ s.datalogging.AwaitsRelease
  released : ∀ a, phase = .released a → s.datalogging.AwaitsRelease

namespace Interleaved

open MainHandler LoopHandler

variable {phase : Handoff LoopId} {s : System}

/-- A step that chooses no next owner. -/
theorem advance (h : Interleaved phase s) {phase' : Handoff LoopId} {s' : System}
    (hphase : InPhase phase' s') (hcount : s'.loop_count = s.loop_count)
    (hnew_owner : s'.datalogging.new_owner = s.datalogging.new_owner)
    (hfree : phase = .free → phase' = .free)
    (htake : ∀ i < s.loop_count,
      s'.main2loop i = some .TAKE_DATALOGGER_OWNERSHIP ↔ phase'.offer = some i)
    (hrelease : ∀ i < s.loop_count, s'.main2loop i = some .RELEASE_DATALOGGER_OWNERSHIP →
      phase' = .owned i ∧ s'.datalogging.AwaitsRelease)
    (hreleased : ∀ a, phase' = .released a → s'.datalogging.AwaitsRelease) :
    Interleaved phase' s' := by
  refine ⟨hphase, ?_, hcount ▸ htake, hcount ▸ hrelease, hreleased⟩
  intro b hb
  rw [hnew_owner] at hb
  rw [hcount]
  exact ⟨hfree (h.new_owner b hb).1, (h.new_owner b hb).2⟩

/-- Only the members that the relation looks at matter. -/
theorem frame (h : Interleaved phase s) {s' : System} (hframe : DataloggingFrame s s') :
    Interleaved phase s' := by
  apply h.advance (h.toInPhase.frame hframe) hframe.loop_count
  · rw [hframe.datalogging]
  · exact fun hfree => hfree
  · rw [hframe.main2loop]
    exact h.take
  · rw [hframe.main2loop, hframe.datalogging]
    exact h.release
  · rw [hframe.datalogging]
    exact h.released

/-- The main handler takes note of one message. -/
theorem process_loop (h : Interleaved phase s) {id : LoopId} (hid : id < s.loop_count) :
    ∃ phase', Relation.ReflTransGen Handoff.Step phase phase' ∧
      Interleaved phase' (MainHandler.process_loop s id) := by
  cases hmsg : s.loop2main id with
  | none =>
    rw [process_loop_of_empty hmsg]
    exact ⟨phase, .refl, h⟩
  | some msg =>
    refine ⟨phase.noted, phase.noted_reachable, ?_⟩
    apply h.advance (h.toInPhase.process_loop hid hmsg) (process_loop_frame s id).loop_count
      (process_loop_keeps s id).1
    · rintro rfl
      rfl
    · intro i hi
      rw [process_loop_main2loop, phase.offer_noted]
      exact h.take i hi
    · intro i hi hrelease
      rw [process_loop_main2loop] at hrelease
      obtain ⟨rfl, hawaits⟩ := h.release i hi hrelease
      refine ⟨rfl, ?_⟩
      rw [process_loop_of_message hmsg]
      rcases h.message_cases hid hmsg with ⟨habsurd, _⟩ | ⟨habsurd, _⟩ | ⟨_, hreport⟩
      · cases habsurd
      · cases habsurd
      · cases msg with
        | DATALOGGER_OWNERSHIP_TAKEN => cases hreport
        | DATALOGGER_OWNERSHIP_RELEASED => cases hreport
        | DATALOGGER_DATA_ACQUIRED => exact hawaits
        | DATALOGGER_STATUS_UPDATE update => exact hawaits
    · intro a ha
      cases phase with
      | free | offered _ | claimed _ | owned _ | released _ => cases ha

/-- Once the release was asked for, it is not asked for again. -/
theorem next_command_of_awaits (hawaits : s.datalogging.AwaitsRelease) :
    next_command s ≠ some .RELEASE_DATALOGGER_OWNERSHIP ∧
      (without_command s.datalogging (next_command s)).AwaitsRelease := by
  obtain ⟨hpending, hrequest⟩ := hawaits
  have hnext : next_command s ≠ some .RELEASE_DATALOGGER_OWNERSHIP := by
    rw [next_command, hrequest]
    split
    · contradiction
    · repeat' split
      all_goals simp
  refine ⟨hnext, ?_⟩
  unfold without_command
  split
  · contradiction
  · exact ⟨hpending, hrequest⟩
  · exact ⟨hpending, hrequest⟩
  · exact ⟨hpending, hrequest⟩

/-- A command to the loop that the main handler takes for the owner. -/
theorem command (h : Interleaved phase s) {a : LoopId}
    (hphase : phase = .owned a ∨ phase = .released a) :
    Interleaved phase (MainHandler.process_datalogging_logic s) := by
  have hknown : phase.known = some a := by
    rcases hphase with rfl | rfl
    · rfl
    · rfl
  have hoffer : phase.offer = none := by
    rcases hphase with rfl | rfl
    · rfl
    · rfl
  have heq := process_datalogging_logic_of_owner h.error (h.owner.trans hknown)
  by_cases hroom : s.main2loop a = none
  · obtain ⟨hdatalogging, hslots⟩ := send_commands_room hroom
    apply h.advance h.toInPhase.process_datalogging_logic
      (process_datalogging_logic_frame s).loop_count
    · rw [heq, hdatalogging, (without_command_frame s.datalogging (next_command s)).2.1]
    · exact fun hfree => hfree
    · intro i hi
      rw [heq, hslots]
      split
      · rw [hoffer]
        exact iff_of_false (next_command_ne_take s) (Option.some_ne_none i).symm
      · exact h.take i hi
    · intro i hi hrelease
      rw [heq, hslots] at hrelease
      rw [heq, hdatalogging]
      split at hrelease
      · rename_i hown
        rcases hphase with rfl | rfl
        · rw [hrelease]
          exact ⟨congrArg Handoff.owned hown.symm, rfl, rfl⟩
        · exact absurd hrelease (next_command_of_awaits (h.released a rfl)).1
      · rename_i hne
        have hown := (h.release i hi hrelease).1
        rcases hphase with rfl | rfl
        · cases hown
          exact absurd rfl hne
        · cases hown
    · intro b hb
      rw [heq, hdatalogging]
      exact (next_command_of_awaits (h.released b hb)).2
  · rwa [heq, send_commands_busy hroom]

/-- The datalogger is offered while no loop has it or may take it. -/
theorem offer (h : Interleaved phase s) (hfree : phase.known = none) :
    ∃ phase', Relation.ReflTransGen Handoff.Step phase phase' ∧
      Interleaved phase' (MainHandler.process_datalogging_logic s) := by
  have hcount := (process_datalogging_logic_frame s).loop_count
  have hphase := h.toInPhase.process_datalogging_logic
  obtain ⟨hdatalogging, hslots⟩ := offer_ownership_spec s
  rw [process_datalogging_logic_of_free h.error (h.owner.trans hfree)] at hcount hphase ⊢
  have howned (i : LoopId) : phase ≠ .owned i := by
    rintro rfl
    cases hfree
  cases hoffer : offered_to s with
  | none =>
    refine ⟨phase, .refl, h.advance hphase hcount ?_ ?_ ?_ ?_ ?_⟩
    · rw [hdatalogging, hoffer]
      rfl
    · exact fun hfree => hfree
    · intro i hi
      rw [hslots, hoffer]
      exact h.take i hi
    · intro i hi hrelease
      rw [hslots, hoffer] at hrelease
      exact absurd (h.release i hi hrelease).1 (howned i)
    · rintro a rfl
      cases hfree
  | some b =>
    obtain ⟨rfl, hlt⟩ := h.new_owner b (offered_to_eq_some.mp hoffer).1
    refine ⟨.offered b, .single (.offer b), hphase.offer (hcount ▸ hlt), ?_, ?_, ?_, ?_⟩
    · intro c hc
      rw [hdatalogging, hoffer] at hc
      cases hc
    · intro i hi
      rw [hcount] at hi
      rw [hslots, hoffer]
      split
      · rename_i hown
        exact iff_of_true rfl hown
      · rename_i hother
        refine iff_of_false (fun htake => ?_) hother
        cases (h.take i hi).mp htake
    · intro i hi hrelease
      rw [hcount] at hi
      rw [hslots] at hrelease
      split at hrelease
      · cases hrelease
      · exact absurd (h.release i hi hrelease).1 (howned i)
    · intro a ha
      cases ha

/-- The main handler tells the loops what it wants. -/
theorem process_datalogging_logic (h : Interleaved phase s) :
    ∃ phase', Relation.ReflTransGen Handoff.Step phase phase' ∧
      Interleaved phase' (MainHandler.process_datalogging_logic s) := by
  cases phase with
  | free | offered _ | claimed _ => exact h.offer rfl
  | owned a => exact ⟨.owned a, .refl, h.command (.inl rfl)⟩
  | released a => exact ⟨.released a, .refl, h.command (.inr rfl)⟩

/-- The datalogger is at rest when no loop is known to have it, has it or may take it. -/
theorem free_of_at_rest (h : Interleaved phase s) (howner : s.datalogging.owner = none)
    (hrest : s.AtRest) : phase = .free := by
  have hoffers := System.offers_eq_empty.mp hrest.2
  cases phase with
  | free => rfl
  | offered a =>
    exact absurd ((h.take a (h.worker_lt a rfl)).mpr rfl) (hoffers a (h.worker_lt a rfl))
  | claimed a => cases hrest.1.symm.trans h.datalogger_owner
  | owned a => cases howner.symm.trans h.owner
  | released a => cases howner.symm.trans h.owner

/-- A request keeps the token where it is, as long as a configuration is only accepted at
rest. -/
theorem execute_request (h : Interleaved phase s) (hrequest : has_request s = true) (stack : Stack)
    (hrest : accepted_configuration s ≠ none → s.AtRest) :
    Interleaved phase (MainHandler.execute_request s stack) := by
  have hserved := execute_request_of_served hrequest stack
  obtain ⟨howner, herror, hdatalogger, hnew_owner⟩ := serve_request_ownership s stack
  have hframe := execute_request_frame s stack
  have hcount : (MainHandler.execute_request s stack).loop_count = s.loop_count :=
    (congrArg (fun main : MainHandler => main.m_config.m_loop_count.toNat) hframe.main).trans rfl
  have hmain2loop : (MainHandler.execute_request s stack).main2loop = s.main2loop := by
    unfold System.main2loop
    rw [hframe.loops]
  have hloop2main : (MainHandler.execute_request s stack).loop2main = s.loop2main := by
    unfold System.loop2main
    rw [hframe.loops]
  have hawaits (hbefore : s.datalogging.AwaitsRelease) :
      (MainHandler.execute_request s stack).datalogging.AwaitsRelease := by
    rw [hserved]
    exact serve_request_awaits hbefore stack
  have hphase : InPhase phase (MainHandler.execute_request s stack) := by
    apply h.toInPhase.congr hcount
    · rw [hserved, herror]
    · rw [hserved, howner]
    · exact (congrArg (fun d : Datalogging => d.datalogger.m_owner) hserved).trans hdatalogger
    · exact hloop2main
  refine ⟨hphase, ?_, ?_, ?_, ?_⟩
  · intro b hb
    rw [hserved, hnew_owner] at hb
    rw [hcount]
    rcases Option.or_eq_some_iff.mp hb with haccepted | ⟨_, hwaiting⟩
    · obtain ⟨hfree, hlt⟩ := accepted_configuration_eq_some haccepted
      have hatrest := hrest (by rw [haccepted]; exact Option.some_ne_none b)
      exact ⟨h.free_of_at_rest hfree hatrest, hlt⟩
    · exact h.new_owner b hwaiting
  · rw [hcount, hmain2loop]
    exact h.take
  · rw [hcount, hmain2loop]
    intro i hi hrelease
    exact ⟨(h.release i hi hrelease).1, hawaits (h.release i hi hrelease).2⟩
  · intro a ha
    exact hawaits (h.released a ha)

theorem addressed (h : Interleaved phase s) {id : LoopId} (hid : id < s.loop_count) :
    Addressed phase id (received s id) where
  take htake := by
    have hoffer := (h.take id hid).mp (received_eq_some htake).2
    cases phase with
    | offered a =>
      cases hoffer
      rfl
    | free | claimed _ | owned _ | released _ => cases hoffer
  release hrelease := (h.release id hid (received_eq_some hrelease).2).1

/-- The messages that are still there after a call of a loop are those that it did not take. -/
theorem process_common_keeps_message {id i : LoopId} {timestep_100ns : timediff_t}
    {msg : Main2LoopMessage} :
    (LoopHandler.process_common s id timestep_100ns).main2loop i = some msg ↔
      s.main2loop i = some msg ∧ ¬ (i = id ∧ received s id = some msg) := by
  rw [process_common_main2loop]
  split
  · rename_i hread
    obtain ⟨rfl, hsome⟩ := hread
    obtain ⟨other, hother⟩ := Option.ne_none_iff_exists'.mp hsome
    rw [(received_eq_some hother).2, hother]
    simp
  · rename_i hunread
    refine (and_iff_left ?_).symm
    rintro ⟨hown, hreceived⟩
    exact hunread ⟨hown, by rw [hreceived]; exact Option.some_ne_none msg⟩

/-- A loop takes, keeps or gives back the datalogger, whichever part of `process` it
interrupts. -/
theorem process_common (h : Interleaved phase s) {id : LoopId} (hid : id < s.loop_count)
    (timestep_100ns : timediff_t) :
    ∃ phase', Relation.ReflTransGen Handoff.Step phase phase' ∧
      Interleaved phase' (LoopHandler.process_common s id timestep_100ns) := by
  have haddressed := h.addressed hid
  have hkept := process_common_datalogging s id timestep_100ns
  refine ⟨answered phase id (received s id), haddressed.answered_reachable, ?_⟩
  apply h.advance (h.toInPhase.process_common hid haddressed timestep_100ns)
    (process_common_loop_count s id timestep_100ns)
  · rw [hkept]
  · rintro rfl
    rcases haddressed.cases with ⟨habsurd, _⟩ | ⟨habsurd, _⟩ | ⟨hsame, _⟩
    · cases habsurd
    · cases habsurd
    · exact hsame
  · intro i hi
    rw [process_common_keeps_message, h.take i hi]
    rcases haddressed.cases with ⟨rfl, htake⟩ | ⟨rfl, hrelease⟩ | ⟨hsame, hquiet, _⟩
    · rw [htake]
      simp [answered, Handoff.offer, eq_comm]
    · rw [hrelease]
      simp [answered, Handoff.offer]
    · rw [hsame]
      refine and_iff_left ?_
      rintro ⟨_, htake⟩
      have hphase := haddressed.take htake
      rw [htake, hphase] at hquiet
      cases hquiet
  · intro i hi hhere
    obtain ⟨hbefore, hunread⟩ := process_common_keeps_message.mp hhere
    obtain ⟨rfl, hawaits⟩ := h.release i hi hbefore
    rw [hkept]
    refine ⟨?_, hawaits⟩
    rcases haddressed.cases with ⟨habsurd, _⟩ | ⟨hown, hrelease⟩ | ⟨hsame, _⟩
    · cases habsurd
    · cases hown
      exact absurd ⟨rfl, hrelease⟩ hunread
    · exact hsame
  · intro a ha
    rw [hkept]
    rcases haddressed.cases with ⟨rfl, htake⟩ | ⟨rfl, hrelease⟩ | ⟨hsame, _⟩
    · rw [htake] at ha
      cases ha
    · exact (h.release id hid (received_eq_some hrelease).2).2
    · exact h.released a (hsame.symm.trans ha)

theorem offers_eq (h : Interleaved phase s) : s.offers = phase.offer.elim ∅ fun a => {a} :=
  h.toInPhase.offers_eq h.take

theorem single_token (h : Interleaved phase s) : s.SingleToken :=
  h.toInPhase.single_token h.offers_eq

end Interleaved

end scrutiny
