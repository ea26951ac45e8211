import Scrutiny.Ownership.Phase

open foundation

namespace scrutiny

open datalogging protocol

/-- The messages to a loop that are possible in a phase of the ownership. -/
def fits_main2loop (phase : Handoff LoopId) (id : LoopId) (slot : Option Main2LoopMessage) : Prop :=
  match phase with
  | .offered a => slot = if id = a then some .TAKE_DATALOGGER_OWNERSHIP else none
  | .owned a => slot = none ∨ id = a ∧ slot ≠ some .TAKE_DATALOGGER_OWNERSHIP
  | .free | .claimed _ | .released _ => slot = none

theorem fits_main2loop_noted {phase : Handoff LoopId} {id : LoopId}
    {slot : Option Main2LoopMessage} (hfits : fits_main2loop phase id slot) :
    fits_main2loop phase.noted id slot := by
  cases phase with
  | free | offered _ | owned _ | released _ => exact hfits
  | claimed _ => exact .inl hfits

variable [Platform]

/-- The places where the source keeps the ownership agree with one phase of the token. -/
structure Tracks (phase : Handoff LoopId) (s : System) : Prop extends InPhase phase s where
  new_owner_lt : ∀ b, s.datalogging.new_owner = some b → b < s.loop_count
  new_owner_worker : ∀ a b, phase.worker = some a → s.datalogging.new_owner = some b → a = b
  main2loop : ∀ i < s.loop_count, fits_main2loop phase i (s.main2loop i)

namespace Tracks

open MainHandler LoopHandler

variable {phase : Handoff LoopId} {s : System}

/-- A step that does not bring in another worker. -/
theorem advance (h : Tracks phase s) {phase' : Handoff LoopId} {s' : System}
    (hphase : InPhase phase' s') (hworker : phase'.worker = none ∨ phase'.worker = phase.worker)
    (hcount : s'.loop_count = s.loop_count)
    (hnew_owner : s'.datalogging.new_owner = s.datalogging.new_owner)
    (hmain2loop : ∀ i < s.loop_count, fits_main2loop phase' i (s'.main2loop i)) :
    Tracks phase' s' := by
  refine ⟨hphase, ?_, ?_, hcount ▸ hmain2loop⟩
  · rw [hnew_owner, hcount]
    exact h.new_owner_lt
  · intro a b ha hb
    rw [hnew_owner] at hb
    rcases hworker with hnone | hkept
    · rw [hnone] at ha
      cases ha
    · exact h.new_owner_worker a b (hkept.symm.trans ha) hb

/-- Only the members that the relation looks at matter. -/
theorem frame (h : Tracks phase s) {s' : System} (hframe : DataloggingFrame s s') :
    Tracks phase s' := by
  apply h.advance (h.toInPhase.frame hframe) (.inr rfl) hframe.loop_count
  · rw [hframe.datalogging]
  · rw [hframe.main2loop]
    exact h.main2loop

/-- The main handler takes note of one message. -/
theorem process_loop (h : Tracks phase s) {id : LoopId} (hid : id < s.loop_count) :
    ∃ phase', Relation.ReflTransGen Handoff.Step phase phase' ∧
      Tracks phase' (MainHandler.process_loop s id) := by
  cases hmsg : s.loop2main id with
  | none =>
    rw [process_loop_of_empty hmsg]
    exact ⟨phase, .refl, h⟩
  | some msg =>
    refine ⟨phase.noted, phase.noted_reachable, ?_⟩
    apply h.advance (h.toInPhase.process_loop hid hmsg) phase.worker_noted
      (process_loop_frame s id).loop_count (process_loop_keeps s id).1
    intro i hi
    rw [process_loop_main2loop]
    exact fits_main2loop_noted (h.main2loop i hi)

/-- The main handler takes note of what the loops did. -/
theorem process_loops (h : Tracks phase s) :
    ∃ phase', Relation.ReflTransGen Handoff.Step phase phase' ∧
      Tracks phase' (MainHandler.process_loops s) ∧
      ∀ i < s.loop_count, (MainHandler.process_loops s).loop2main i = none := by
  have hread : ∀ i < s.loop_count, (MainHandler.process_loops s).loop2main i = none := by
    intro i hi
    rw [process_loops_loop2main, if_pos hi]
  cases hworker : phase.worker with
  | none =>
    refine ⟨phase, .refl, ?_, hread⟩
    rwa [process_loops_of_empty]
    intro i hi
    by_contra hsome
    obtain ⟨msg, hmsg⟩ := Option.ne_none_iff_exists'.mp hsome
    cases hworker.symm.trans (h.worker_of_message hi hmsg)
  | some a =>
    have ha := h.worker_lt a hworker
    have hnoted := process_loops_eq ha fun i hi hne => h.silent_of_ne hworker hi hne
    obtain ⟨phase', hpath, htracks⟩ := h.process_loop ha
    refine ⟨phase', hpath, ?_, hread⟩
    rwa [hnoted]

/-- The state right after the main handler emptied the slots of the loops. -/
structure Settled (phase : Handoff LoopId) (s : System) : Prop where
  tracks : Tracks phase s
  silent : ∀ i < s.loop_count, s.loop2main i = none

theorem Settled.phase_cases (h : Settled phase s) :
    phase = .free ∨ (∃ a, phase = .offered a) ∨ ∃ a, phase = .owned a :=
  h.tracks.phase_cases_of_silent h.silent

theorem Settled.slot_of_free (h : Settled phase s) (hfree : s.datalogging.owner = none)
    {c : LoopId} (hc : c < s.loop_count) :
    s.main2loop c = none ∨ s.main2loop c = some .TAKE_DATALOGGER_OWNERSHIP := by
  rcases h.phase_cases with rfl | ⟨a, rfl⟩ | ⟨a, rfl⟩
  · exact .inl (h.tracks.main2loop c hc)
  · rw [h.tracks.main2loop c hc]
    split
    · exact .inr rfl
    · exact .inl rfl
  · cases h.tracks.owner.symm.trans hfree

/-- Only one loop has an offer in its slot. -/
theorem Settled.room_of_offer (h : Settled phase s) (hfree : s.datalogging.owner = none)
    {i c : LoopId} (hi : i < s.loop_count)
    (htake : s.main2loop i = some .TAKE_DATALOGGER_OWNERSHIP) (hc : c < s.loop_count)
    (hne : c ≠ i) : s.main2loop c = none := by
  rcases h.phase_cases with rfl | ⟨a, rfl⟩ | ⟨a, rfl⟩
  · exact h.tracks.main2loop c hc
  · have hia : i = a := by
      by_contra hother
      have hempty := (h.tracks.main2loop i hi).trans (if_neg hother)
      rw [htake] at hempty
      cases hempty
    exact (h.tracks.main2loop c hc).trans (if_neg fun hca => hne (hca.trans hia.symm))
  · cases h.tracks.owner.symm.trans hfree

/-- An offer that cannot be made, or is made already, changes nothing. -/
theorem no_offer (h : Tracks phase s) (howner : s.datalogging.owner = none)
    (hoffer : offered_to s = none) : Tracks phase (MainHandler.process_datalogging_logic s) := by
  have heq := process_datalogging_logic_of_free h.error howner
  obtain ⟨hdatalogging, hmain2loop⟩ := offer_ownership_spec s
  apply h.advance h.toInPhase.process_datalogging_logic (.inr rfl)
    (process_datalogging_logic_frame s).loop_count
  · rw [heq, hdatalogging, hoffer]
    rfl
  · intro i hi
    rw [heq, hmain2loop, hoffer]
    exact h.main2loop i hi

/-- The datalogger is offered while it is free. -/
theorem offer (h : Tracks .free s) {b : LoopId} (hoffer : offered_to s = some b) :
    Tracks (.offered b) (MainHandler.process_datalogging_logic s) := by
  have hcount := (process_datalogging_logic_frame s).loop_count
  have heq := process_datalogging_logic_of_free h.error h.owner
  obtain ⟨hdatalogging, hmain2loop⟩ := offer_ownership_spec s
  have hb := h.new_owner_lt b (offered_to_eq_some.mp hoffer).1
  have hchosen : (MainHandler.process_datalogging_logic s).datalogging.new_owner = none := by
    rw [heq, hdatalogging, hoffer]
    rfl
  refine ⟨h.toInPhase.process_datalogging_logic.offer (hcount ▸ hb), ?_, ?_, ?_⟩
  · intro c hc
    cases hchosen.symm.trans hc
  · intro a c _ hc
    cases hchosen.symm.trans hc
  · intro i hi
    rw [hcount] at hi
    rw [heq, hmain2loop, hoffer, h.main2loop i hi]
    simp only [fits_main2loop, Option.some.injEq, eq_comm]

/-- The owner is told to arm, to disarm or to release the datalogger. -/
theorem command {a : LoopId} (h : Tracks (.owned a) s) :
    Tracks (.owned a) (MainHandler.process_datalogging_logic s) := by
  have heq := process_datalogging_logic_of_owner h.error h.owner
  by_cases hroom : s.main2loop a = none
  · obtain ⟨hdatalogging, hmain2loop⟩ := send_commands_room hroom
    apply h.advance h.toInPhase.process_datalogging_logic (.inr rfl)
      (process_datalogging_logic_frame s).loop_count
    · rw [heq, hdatalogging, (without_command_frame s.datalogging (next_command s)).2.1]
    · intro i hi
      rw [heq, hmain2loop]
      split
      · rename_i hia
        exact .inr ⟨hia, next_command_ne_take s⟩
      · exact h.main2loop i hi
  · rwa [heq, send_commands_busy hroom]

/-- The main handler tells the loops what it wants. -/
theorem Settled.process_datalogging_logic (h : Settled phase s) :
    ∃ phase', Relation.ReflTransGen Handoff.Step phase phase' ∧
      Settled phase' (MainHandler.process_datalogging_logic s) := by
  have hsilent : ∀ i < (MainHandler.process_datalogging_logic s).loop_count,
      (MainHandler.process_datalogging_logic s).loop2main i = none := by
    intro i hi
    rw [(process_datalogging_logic_frame s).loop_count] at hi
    rw [process_datalogging_logic_loop2main]
    exact h.silent i hi
  rcases h.phase_cases with rfl | ⟨a, rfl⟩ | ⟨a, rfl⟩
  · cases hoffer : offered_to s with
    | none => exact ⟨.free, .refl, h.tracks.no_offer h.tracks.owner hoffer, hsilent⟩
    | some b => exact ⟨.offered b, .single (.offer b), h.tracks.offer hoffer, hsilent⟩
  · refine ⟨.offered a, .refl, h.tracks.no_offer h.tracks.owner ?_, hsilent⟩
    by_contra hsome
    obtain ⟨b, hb⟩ := Option.ne_none_iff_exists'.mp hsome
    obtain ⟨hnew_owner, hroom⟩ := offered_to_eq_some.mp hb
    obtain rfl := h.tracks.new_owner_worker a b rfl hnew_owner
    have hslot := h.tracks.main2loop a (h.tracks.worker_lt a rfl)
    simp [fits_main2loop, hroom] at hslot
  · exact ⟨.owned a, .refl, h.tracks.command, hsilent⟩

/-- A request keeps the token where it is, as long as it chooses no other loop than the one
that the datalogger is offered to. -/
theorem Settled.serve_request (h : Settled phase s) (stack : Stack)
    (hsingle : ∀ c, accepted_configuration s = some c →
      ∀ i < s.loop_count, s.main2loop i = some .TAKE_DATALOGGER_OWNERSHIP → i = c) :
    Settled phase (MainHandler.serve_request s stack) := by
  obtain ⟨_, _, _, hnew_owner⟩ := serve_request_ownership s stack
  have hcount : (MainHandler.serve_request s stack).loop_count = s.loop_count :=
    congrArg (fun m_config : Config => m_config.m_loop_count.toNat) (serve_request_config s stack)
  have hmain2loop : (MainHandler.serve_request s stack).main2loop = s.main2loop := by
    unfold System.main2loop
    rw [serve_request_loops]
  have hloop2main : (MainHandler.serve_request s stack).loop2main = s.loop2main := by
    unfold System.loop2main
    rw [serve_request_loops]
  refine ⟨⟨h.tracks.toInPhase.serve_request stack, ?_, ?_, ?_⟩, ?_⟩
  · intro b hb
    rw [hnew_owner] at hb
    rw [hcount]
    cases haccepted : accepted_configuration s with
    | none =>
      rw [haccepted, Option.none_or] at hb
      exact h.tracks.new_owner_lt b hb
    | some c =>
      rw [haccepted, Option.some_or] at hb
      cases hb
      exact (accepted_configuration_eq_some haccepted).2
  · intro a b ha hb
    rw [hnew_owner] at hb
    cases haccepted : accepted_configuration s with
    | none =>
      rw [haccepted, Option.none_or] at hb
      exact h.tracks.new_owner_worker a b ha hb
    | some c =>
      rw [haccepted, Option.some_or] at hb
      cases hb
      have hfree := h.tracks.owner.symm.trans (accepted_configuration_eq_some haccepted).1
      rcases h.phase_cases with rfl | ⟨d, rfl⟩ | ⟨d, rfl⟩
      · cases ha
      · cases ha
        have hlt := h.tracks.worker_lt a rfl
        exact hsingle b haccepted a hlt ((h.tracks.main2loop a hlt).trans (if_pos rfl))
      · cases hfree
  · rw [hcount, hmain2loop]
    exact h.tracks.main2loop
  · rw [hcount, hloop2main]
    exact h.silent

/-- A message is an offer to the loop that finds it, or a command to the owner. -/
theorem main2loop_cases (h : Tracks phase s) {id : LoopId} (hid : id < s.loop_count)
    {msg : Main2LoopMessage} (hmsg : s.main2loop id = some msg) :
    phase = .offered id ∧ msg = .TAKE_DATALOGGER_OWNERSHIP ∨
      phase = .owned id ∧ msg ≠ .TAKE_DATALOGGER_OWNERSHIP := by
  have hfits := h.main2loop id hid
  rw [hmsg] at hfits
  cases phase with
  | free | claimed _ | released _ => cases hfits
  | offered a =>
    rw [fits_main2loop] at hfits
    split at hfits
    · rename_i hown
      cases hfits
      exact .inl ⟨congrArg Handoff.offered hown.symm, rfl⟩
    · cases hfits
  | owned a =>
    rcases hfits with hempty | ⟨hown, hne⟩
    · cases hempty
    · exact .inr ⟨congrArg Handoff.owned hown.symm, fun htake => hne (congrArg some htake)⟩

theorem addressed (h : Tracks phase s) {id : LoopId} (hid : id < s.loop_count) :
    Addressed phase id (received s id) where
  take htake := by
    rcases h.main2loop_cases hid (received_eq_some htake).2 with ⟨hphase, _⟩ | ⟨_, hne⟩
    · exact hphase
    · exact absurd rfl hne
  release hrelease := by
    rcases h.main2loop_cases hid (received_eq_some hrelease).2 with ⟨_, habsurd⟩ | ⟨hphase, _⟩
    · cases habsurd
    · exact hphase

/-- There is one message to the loops at most. -/
theorem only_message (h : Tracks phase s) {id : LoopId} (hid : id < s.loop_count)
    {msg : Main2LoopMessage} (hmsg : s.main2loop id = some msg) {i : LoopId}
    (hi : i < s.loop_count) (hne : i ≠ id) : s.main2loop i = none := by
  have hfits := h.main2loop i hi
  rcases h.main2loop_cases hid hmsg with ⟨rfl, _⟩ | ⟨rfl, _⟩
  · exact hfits.trans (if_neg hne)
  · exact hfits.resolve_right fun hown => hne hown.1

/-- A loop takes, keeps or gives back the datalogger. -/
theorem process_common (h : Tracks phase s) {id : LoopId} (hid : id < s.loop_count)
    (timestep_100ns : timediff_t) :
    ∃ phase', Relation.ReflTransGen Handoff.Step phase phase' ∧
      Tracks phase' (LoopHandler.process_common s id timestep_100ns) := by
  have haddressed := h.addressed hid
  refine ⟨answered phase id (received s id), haddressed.answered_reachable, ?_⟩
  apply h.advance (h.toInPhase.process_common hid haddressed timestep_100ns)
    (.inr haddressed.worker_answered) (process_common_loop_count s id timestep_100ns)
  · rw [process_common_datalogging s id timestep_100ns]
  · intro i hi
    rw [process_common_main2loop]
    cases hreceived : received s id with
    | none =>
      rw [if_neg fun hread => hread.2 rfl]
      exact h.main2loop i hi
    | some msg =>
      have hmsg := (received_eq_some hreceived).2
      have hempty : (if i = id ∧ some msg ≠ none then none else s.main2loop i) = none := by
        split
        · rfl
        · rename_i hkept
          apply h.only_message hid hmsg hi
          exact fun hown => hkept ⟨hown, Option.some_ne_none msg⟩
      rw [hempty]
      rcases h.main2loop_cases hid hmsg with ⟨rfl, rfl⟩ | ⟨rfl, hne⟩
      · rfl
      · cases msg with
        | TAKE_DATALOGGER_OWNERSHIP => exact absurd rfl hne
        | RELEASE_DATALOGGER_OWNERSHIP => rfl
        | DATALOGGER_ARM_TRIGGER | DATALOGGER_DISARM_TRIGGER => exact .inl rfl

end Tracks

end scrutiny
