import Scrutiny.Acquisition.Usable
import Scrutiny.Ownership.Reports
import Scrutiny.Ownership.Reset

open foundation

namespace scrutiny

open datalogging protocol

section

variable [Platform]

open MainHandler LoopHandler

/-- No loop owns the datalogger, and nothing on its way makes one its owner. -/
structure Quiet (s : System) : Prop where
  datalogger_owner : s.datalogger.m_owner = none
  owner : s.datalogging.owner = none
  no_offer : ∀ i < s.loop_count, s.main2loop i ≠ some .TAKE_DATALOGGER_OWNERSHIP
  no_claim : ∀ i < s.loop_count, s.loop2main i ≠ some .DATALOGGER_OWNERSHIP_TAKEN
  no_next : s.datalogging.error = .NoError → s.datalogging.new_owner = none

namespace Quiet

variable {s : System}

theorem frame (h : Quiet s) {s' : System} (hframe : DataloggingFrame s s') : Quiet s' := by
  refine ⟨?_, ?_, ?_, ?_, ?_⟩
  · rw [hframe.datalogger]
    exact h.datalogger_owner
  · rw [hframe.datalogging]
    exact h.owner
  · rw [hframe.loop_count, hframe.main2loop]
    exact h.no_offer
  · rw [hframe.loop_count, hframe.loop2main]
    exact h.no_claim
  · rw [hframe.datalogging]
    exact h.no_next

theorem process_loop (h : Quiet s) {id : LoopId} (hid : id < s.loop_count) :
    Quiet (MainHandler.process_loop s id) := by
  have hcount := (process_loop_frame s id).loop_count
  obtain ⟨hnew_owner, hdatalogger⟩ := process_loop_keeps s id
  refine ⟨?_, ?_, ?_, ?_, ?_⟩
  · rw [hdatalogger]
    exact h.datalogger_owner
  · cases hmsg : s.loop2main id with
    | none =>
      rw [process_loop_of_empty hmsg]
      exact h.owner
    | some msg =>
      rw [process_loop_of_message hmsg, System.set_datalogging_datalogging]
      cases msg with
      | DATALOGGER_OWNERSHIP_TAKEN => exact absurd hmsg (h.no_claim id hid)
      | DATALOGGER_OWNERSHIP_RELEASED => rfl
      | DATALOGGER_DATA_ACQUIRED => exact h.owner
      | DATALOGGER_STATUS_UPDATE update => exact h.owner
  · rw [hcount]
    intro i hi
    rw [process_loop_main2loop]
    exact h.no_offer i hi
  · rw [hcount]
    intro i hi
    rw [process_loop_loop2main]
    split
    · nofun
    · exact h.no_claim i hi
  · intro herror
    rw [hnew_owner]
    cases hmsg : s.loop2main id with
    | none =>
      rw [process_loop_of_empty hmsg] at herror
      exact h.no_next herror
    | some msg => exact h.no_next (Reporting.process_loop_owner s hmsg herror).1

theorem process_datalogging_logic (h : Quiet s) :
    Quiet (MainHandler.process_datalogging_logic s) := by
  have hcount := (process_datalogging_logic_frame s).loop_count
  obtain ⟨howner, herror⟩ := process_datalogging_logic_owner s
  refine ⟨?_, howner.trans h.owner, ?_, ?_, ?_⟩
  · rw [process_datalogging_logic_datalogger]
    exact h.datalogger_owner
  · rw [hcount]
    intro i hi htake
    rcases (process_datalogging_logic_take s i).mp htake with hbefore | ⟨hnone, _, hoffer⟩
    · exact h.no_offer i hi hbefore
    · cases (offered_to_eq_some.mp hoffer).1.symm.trans (h.no_next hnone)
  · rw [hcount]
    intro i hi
    rw [process_datalogging_logic_loop2main]
    exact h.no_claim i hi
  · rw [herror]
    intro hnone
    by_contra hsome
    obtain ⟨c, hc⟩ := Option.ne_none_iff_exists'.mp hsome
    cases (process_datalogging_logic_new_owner hc).symm.trans (h.no_next hnone)

theorem serve_request (h : Quiet s) (haccepted : accepted_configuration s = none)
    (stack : Stack) : Quiet (MainHandler.serve_request s stack) := by
  obtain ⟨howner, herror, hdatalogger, hnew_owner⟩ := serve_request_ownership s stack
  refine ⟨hdatalogger.trans h.datalogger_owner, howner.trans h.owner, ?_, ?_, ?_⟩
  · rw [serve_request_loop_count, serve_request_main2loop]
    exact h.no_offer
  · rw [serve_request_loop_count, serve_request_loop2main]
    exact h.no_claim
  · rw [herror, hnew_owner, haccepted, Option.none_or]
    exact h.no_next

theorem process_common (h : Quiet s) {id : LoopId} (hid : id < s.loop_count)
    (timestep_100ns : timediff_t) : Quiet (LoopHandler.process_common s id timestep_100ns) := by
  have hcount := process_common_loop_count s id timestep_100ns
  have hdatalogging := process_common_datalogging s id timestep_100ns
  have htake : received s id ≠ some .TAKE_DATALOGGER_OWNERSHIP := fun htake =>
    h.no_offer id hid (received_eq_some htake).2
  have hstays : owner_after s.datalogger.m_owner id (received s id) = none := by
    by_contra hsome
    obtain ⟨a, ha⟩ := Option.ne_none_iff_exists'.mp hsome
    rcases owner_after_eq_some ha with ⟨hhere, _⟩ | ⟨_, hbefore, _⟩
    · exact htake hhere
    · cases hbefore.symm.trans h.datalogger_owner
  refine ⟨?_, ?_, ?_, ?_, ?_⟩
  · rw [process_common_owner]
    exact hstays
  · rw [hdatalogging]
    exact h.owner
  · rw [hcount]
    intro i hi
    rw [process_common_main2loop]
    split
    · nofun
    · exact h.no_offer i hi
  · rw [hcount]
    intro i hi hclaim
    by_cases hne : i = id
    · subst hne
      rcases process_common_loop2main s i timestep_100ns with hsaid | ⟨howns, _⟩
      · rw [hsaid, Option.or_eq_some_iff] at hclaim
        rcases hclaim with hbefore | ⟨_, hanswer⟩
        · exact h.no_claim i hi hbefore
        · unfold answer_to at hanswer
          split at hanswer
          · rename_i hhere
            exact htake hhere
          · split at hanswer
            · cases hanswer
            · cases hanswer
          · cases hanswer
      · cases howns.symm.trans hstays
    · rw [process_common_loop2main_of_ne s id timestep_100ns hne] at hclaim
      exact h.no_claim i hi hclaim
  · rw [hdatalogging]
    exact h.no_next

theorem invariant : System.Inductive Quiet fun s => accepted_configuration s = none where
  frame _ _ hframe h := h.frame hframe
  message _ _ hid h := h.process_loop hid
  logic _ _ h := h.process_datalogging_logic
  request _ stack hguard _ h := h.serve_request hguard stack
  loop _ _ timestep_100ns hid h := h.process_common hid timestep_100ns

end Quiet

namespace System

/-- The call answers OK to a ResetDatalogger request. -/
def Resets (s : System) : Event → Prop
  | .process timestep_100ns _ =>
    served (begin_process s timestep_100ns) = some .ResetDatalogger ∧
      (reset_datalogger (begin_process s timestep_100ns).datalogging).1 = .OK
  | _ => False

/-- Neither the datalogger nor the main handler knows an owner. -/
def Unowned (s : System) : Prop := s.datalogger.m_owner = none ∧ s.datalogging.owner = none

/-- No loop comes to own the datalogger before a configuration is accepted. -/
def StaysUnowned (s : System) : Prop :=
  ∀ events, Along step (fun s e => ¬Configures s e) s events → Always step Unowned s events

/-- Before the call, no loop has an offer or is to get one. Once there is an error no offer
is made, and no loop may own the datalogger. -/
def NoneChosen (s : System) : Event → Prop
  | .process timestep_100ns _ => s.offers = ∅ ∧
    if (begin_process s timestep_100ns).datalogging.error = .NoError
      then s.datalogging.new_owner = none else s.datalogger.m_owner = none
  | _ => True

instance (s : System) (e : Event) : Decidable (Resets s e) :=
  match e with
  | .process timestep_100ns _ => inferInstanceAs (Decidable
    (served (begin_process s timestep_100ns) = some .ResetDatalogger ∧
      (reset_datalogger (begin_process s timestep_100ns).datalogging).1 = .OK))
  | .receive_data _ _ | .pop_data _ | .loop_process _ _ | .application _ =>
    inferInstanceAs (Decidable False)

instance (s : System) (e : Event) : Decidable (NoneChosen s e) :=
  match e with
  | .process timestep_100ns _ => inferInstanceAs (Decidable (s.offers = ∅ ∧
    if (begin_process s timestep_100ns).datalogging.error = .NoError
      then s.datalogging.new_owner = none else s.datalogger.m_owner = none))
  | .receive_data _ _ | .pop_data _ | .loop_process _ _ | .application _ =>
    inferInstanceAs (Decidable True)

theorem begin_process_owner (s : System) (timestep_100ns : timediff_t) :
    (begin_process s timestep_100ns).datalogger.m_owner = s.datalogger.m_owner := by
  rw [begin_process_eq, process_datalogging_logic_datalogger]
  exact (process_loops_keeps (ticked s timestep_100ns)).2

/-- Who runs the datalogger is for the loops to say. -/
theorem process_owner {s : System} (hready : s.main.Ready) (timestep_100ns : timediff_t)
    (stack : Stack) :
    (step s (.process timestep_100ns stack)).datalogger.m_owner = s.datalogger.m_owner := by
  rw [process_datalogger hready, (serve_request_ownership _ stack).2.2.1, begin_process_owner]

/-- What is offered to a loop before the request is still offered after the call. -/
theorem process_offer {s : System} (hready : s.main.Ready) {timestep_100ns : timediff_t}
    (stack : Stack) {i : LoopId}
    (hoffer : (begin_process s timestep_100ns).main2loop i = some .TAKE_DATALOGGER_OWNERSHIP) :
    (step s (.process timestep_100ns stack)).main2loop i = some .TAKE_DATALOGGER_OWNERSHIP := by
  rw [step, process_eq hready.enabled, end_process_eq]
  refine (process_datalogging_logic_take _ i).mpr (.inl ?_)
  rw [process_loops_main2loop, (finished_frame _).main2loop, serve_request_main2loop]
  exact hoffer

theorem process_loop_count {s : System} (hready : s.main.Ready) (timestep_100ns : timediff_t)
    (stack : Stack) : (step s (.process timestep_100ns stack)).loop_count = s.loop_count := by
  rw [step, process_eq hready.enabled, end_process_loop_count, serve_request_loop_count,
    begin_process_loop_count]

/-- The main handler leaves no message of a loop unread. -/
theorem process_loop2main {s : System} (hready : s.main.Ready) (timestep_100ns : timediff_t)
    (stack : Stack) {i : LoopId} (hi : i < s.loop_count) :
    (step s (.process timestep_100ns stack)).loop2main i = none := by
  rw [step, process_eq hready.enabled, end_process_eq, process_datalogging_logic_loop2main,
    process_loops_loop2main, if_pos]
  rw [(finished_frame _).loop_count, serve_request_loop_count, begin_process_loop_count]
  exact hi

/-- A loop that finds an offer when it runs takes the datalogger. -/
theorem StaysUnowned.no_offer {s : System} (h : StaysUnowned s) {i : LoopId}
    (hi : i < s.loop_count) (hroom : s.loop2main i = none) :
    s.main2loop i ≠ some .TAKE_DATALOGGER_OWNERSHIP := by
  intro hoffer
  obtain ⟨_, hafter⟩ := h [.loop_process i 0] ⟨nofun, trivial⟩
  have howner := hafter.1
  rw [step, if_pos hi, process_common_owner, received, if_pos hroom, hoffer] at howner
  cases howner

/-- Only a loop of the configuration runs the datalogger. -/
theorem owner_lt_inductive :
    System.Inductive (fun s => ∀ a, s.datalogger.m_owner = some a → a < s.loop_count)
      fun _ => True where
  frame s s' hframe h := by
    rw [hframe.datalogger, hframe.loop_count]
    exact h
  message s id _ h := by
    rw [(process_loop_keeps s id).2, (process_loop_frame s id).loop_count]
    exact h
  logic s _ h := by
    rw [process_datalogging_logic_datalogger, (process_datalogging_logic_frame s).loop_count]
    exact h
  request s stack _ _ h := by
    rw [(serve_request_ownership s stack).2.2.1, serve_request_loop_count]
    exact h
  loop s id timestep_100ns hid h := by
    intro a ha
    rw [process_common_owner] at ha
    rw [process_common_loop_count]
    rcases owner_after_eq_some ha with ⟨_, rfl⟩ | ⟨_, hbefore, _⟩
    · exact hid
    · exact h a hbefore

/-- What a reset can rely on, whatever the requests before it were. -/
structure Accounted (s : System) : Prop where
  ready : s.main.Ready
  orderly : Orderly s
  reporting : Reporting s
  owner_lt : ∀ a, s.datalogger.m_owner = some a → a < s.loop_count

theorem Reachable.accounted {s : System} (h : Reachable s) : Accounted s := by
  have hslots {s : System} (hinitial : Initial s) {i : LoopId} (hi : i < s.loop_count)
      {msg : Loop2MainMessage} (hslot : s.loop2main i = some msg) : False := by
    cases hslot.symm.trans ((initial_tracks hinitial).loop2main i hi)
  have hunowned {s : System} (hinitial : Initial s) (a : LoopId) :
      s.datalogger.m_owner ≠ some a := by
    rw [(initial_tracks hinitial).datalogger_owner]
    nofun
  obtain ⟨hready, horderly⟩ := Orderly.invariant.reachable (fun s hinitial => by
    refine ⟨fun _ i hi _ => .inl ((initial_tracks hinitial).main2loop i hi),
      fun i hi hslot => (hslots hinitial hi hslot).elim, (initial_tracks hinitial).new_owner_lt⟩) h
  obtain ⟨_, hreporting⟩ := Reporting.invariant.reachable (fun s hinitial =>
    ⟨fun i hi _ hslot => (hslots hinitial hi hslot).elim,
      fun _ i _ howner => absurd howner (hunowned hinitial i),
      fun _ i hi _ hslot => (hslots hinitial hi hslot).elim,
      fun i hi hslot => (hslots hinitial hi hslot).elim⟩) h
  obtain ⟨_, howner_lt⟩ := owner_lt_inductive.reachable
    (fun s hinitial a ha => absurd ha (hunowned hinitial a)) h
  exact ⟨hready, horderly, hreporting, howner_lt⟩

/-- A reset is only answered OK when the main handler knows no owner. -/
theorem Resets.free {s : System} {timestep_100ns : timediff_t} {stack : Stack}
    (h : Resets s (.process timestep_100ns stack)) :
    (begin_process s timestep_100ns).datalogging.owner = none := by
  have hcode := h.2
  unfold reset_datalogger at hcode
  split at hcode
  · cases hcode
  · assumption

/-- The offers that a reset finds are those of before the call, and that of the next owner. -/
theorem Resets.offer_iff {s : System} (haccounted : Accounted s) {timestep_100ns : timediff_t}
    {stack : Stack} (h : Resets s (.process timestep_100ns stack)) :
    (∀ i < s.loop_count,
        (begin_process s timestep_100ns).main2loop i ≠ some .TAKE_DATALOGGER_OWNERSHIP) ↔
      s.offers = ∅ ∧ ((begin_process s timestep_100ns).datalogging.error = .NoError →
        s.datalogging.new_owner = none) := by
  let noted := process_loops (ticked s timestep_100ns)
  have hnew_owner : noted.datalogging.new_owner = s.datalogging.new_owner :=
    (process_loops_keeps (ticked s timestep_100ns)).1
  have hslots (i : LoopId) : noted.main2loop i = s.main2loop i :=
    process_loops_main2loop (ticked s timestep_100ns) i
  have hnoted : Orderly noted := process_loops_induction (fun _ _ hid h => h.process_loop hid)
    (haccounted.orderly.frame (ticked_frame s timestep_100ns))
  have hcount : noted.loop_count = s.loop_count := (process_loops_frame _).loop_count
  obtain ⟨howner, herror⟩ := process_datalogging_logic_owner noted
  have hfree : noted.datalogging.owner = none := howner.symm.trans h.free
  have htake (i : LoopId) := process_datalogging_logic_take noted i
  rw [begin_process_eq, offers_eq_empty]
  constructor
  · intro hnone
    refine ⟨fun i hi hhere => hnone i hi ((htake i).mpr (.inl ((hslots i).trans hhere))), ?_⟩
    intro hquiet
    have hquiet : noted.datalogging.error = .NoError := herror.symm.trans hquiet
    refine hnew_owner.symm.trans (new_owner_eq_none_of_no_offer hquiet hfree ?_ ?_)
    · intro c hc
      refine hnoted.slots hquiet c (hnoted.new_owner_lt c hc) ?_
      rw [hfree]
      nofun
    · intro c hc
      exact hnone c (hcount ▸ hnoted.new_owner_lt c hc)
  · rintro ⟨hnone, hnext⟩ i hi hhere
    rcases (htake i).mp hhere with hbefore | ⟨hquiet, _, hoffer⟩
    · exact hnone i hi ((hslots i).symm.trans hbefore)
    · have hchosen := (offered_to_eq_some.mp hoffer).1
      rw [hnew_owner, hnext (herror.trans hquiet)] at hchosen
      cases hchosen

/-- A reset that finds no offer leaves nothing that makes a loop the owner. -/
theorem Resets.quiet {s : System} (haccounted : Accounted s) {timestep_100ns : timediff_t}
    {stack : Stack} (h : Resets s (.process timestep_100ns stack))
    (hnone : NoneChosen s (.process timestep_100ns stack)) :
    Quiet (step s (.process timestep_100ns stack)) := by
  let begun := begin_process s timestep_100ns
  have hcount : begun.loop_count = s.loop_count := begin_process_loop_count s timestep_100ns
  have hsilent (i : LoopId) (hi : i < s.loop_count) : begun.loop2main i = none := by
    rw [begin_process_loop2main, if_pos hi]
  have hnext : begun.datalogging.error = .NoError → s.datalogging.new_owner = none := by
    intro hquiet
    have hchosen := hnone.2
    rwa [if_pos hquiet] at hchosen
  have hunowned : begun.datalogger.m_owner = none := by
    by_cases hquiet : begun.datalogging.error = .NoError
    · by_contra howned
      obtain ⟨a, ha⟩ := Option.ne_none_iff_exists'.mp howned
      have hlt : a < s.loop_count :=
        haccounted.owner_lt a ((begin_process_owner s timestep_100ns).symm.trans ha)
      have hreporting := Reporting.invariant.begin_process haccounted.reporting timestep_100ns
      rcases hreporting.claims hquiet a (hcount ▸ hlt) ha with hknown | htaken
      · cases h.free.symm.trans hknown
      · cases (hsilent a hlt).symm.trans htaken
    · have howner := hnone.2
      rw [if_neg hquiet] at howner
      exact (begin_process_owner s timestep_100ns).trans howner
  have hbegun : Quiet begun := by
    refine ⟨hunowned, h.free, ?_, ?_, ?_⟩
    · rw [hcount]
      exact (h.offer_iff haccounted).mpr ⟨hnone.1, hnext⟩
    · intro i hi htaken
      cases (hsilent i (hcount ▸ hi)).symm.trans htaken
    · intro hquiet
      by_contra hsome
      obtain ⟨c, hc⟩ := Option.ne_none_iff_exists'.mp hsome
      have hchosen := process_datalogging_logic_new_owner hc
      rw [(process_loops_keeps _).1] at hchosen
      cases (hnext hquiet).symm.trans hchosen
  have hrefused : accepted_configuration begun = none := by
    rw [accepted_configuration, if_neg]
    rintro ⟨hserved, _⟩
    cases h.1.symm.trans hserved
  rw [step, process_eq haccounted.ready.enabled]
  exact Quiet.invariant.end_process (hbegun.serve_request hrefused stack)

/-- Without a configuration there is no way out of the quiet states. -/
theorem stays_unowned_of_quiet {s : System} (hready : s.main.Ready) (h : Quiet s) :
    StaysUnowned s := by
  intro events hnever
  have hstep (s : System) (e : Event) (h : s.main.Ready ∧ Quiet s) (hnever : ¬Configures s e) :
      (step s e).main.Ready ∧ Quiet (step s e) := by
    refine ⟨step_ready h.1 e, Quiet.invariant.step h.1 h.2 ?_⟩
    cases e with
    | process timestep_100ns stack => exact if_neg hnever
    | receive_data | pop_data | loop_process | application => trivial
  exact (always_invariant hstep ⟨hready, h⟩ hnever).mono fun s h =>
    ⟨h.2.datalogger_owner, h.2.owner⟩

/-- After a reset that is answered OK, no loop owns the datalogger until it is configured
again, just when no loop was chosen as its owner before the call. -/
theorem reset_final_iff {s : System} (hreachable : Reachable s) {e : Event}
    (hresets : Resets s e) : StaysUnowned (step s e) ↔ NoneChosen s e := by
  have haccounted := hreachable.accounted
  cases e with
  | process timestep_100ns stack =>
    constructor
    · intro hstays
      have hnone : s.offers = ∅ ∧ _ := (hresets.offer_iff haccounted).mp fun i hi hoffer => by
        have hlater := process_offer haccounted.ready stack hoffer
        refine hstays.no_offer ?_ ?_ hlater
        · rw [process_loop_count haccounted.ready]
          exact hi
        · exact process_loop2main haccounted.ready _ _ hi
      refine ⟨hnone.1, ?_⟩
      split
      · rename_i hquiet
        exact hnone.2 hquiet
      · obtain ⟨howner, _⟩ := hstays [] trivial
        rwa [process_owner haccounted.ready] at howner
    · intro hnone
      exact stays_unowned_of_quiet (step_ready haccounted.ready (.process timestep_100ns stack))
        (hresets.quiet haccounted hnone)
  | receive_data => exact hresets.elim
  | pop_data => exact hresets.elim
  | loop_process => exact hresets.elim
  | application => exact hresets.elim

end System

end

section

attribute [local instance] host.platform

/-- The loop that acquires data releases the datalogger for the reset. -/
def released_for_reset : List Event :=
  host.connect ++ host.configure 0 128 ++ [.loop_process 0 0, .process 0 host.stack,
    host.receive (host.frame 5 8 []), .process 0 host.stack, .loop_process 0 0]

theorem reset_after_release_final :
    System.StaysUnowned
      (System.step (run System.step host.start released_for_reset) (.process 0 host.stack)) :=
  (System.reset_final_iff (host.reachable_run released_for_reset) (by decide +kernel)).mpr
    (by decide +kernel)

/-- The reset comes before the loop took the datalogger that it is offered. -/
def reset_while_offered : List Event :=
  host.connect ++ host.configure 0 128 ++ [host.receive (host.frame 5 8 [])]

theorem owned_after_reset :
    ¬ ∀ s e, System.Reachable s → System.Resets s e → System.StaysUnowned (System.step s e) := by
  intro hfinal
  have hstays := hfinal (run System.step host.start reset_while_offered) (.process 0 host.stack)
    (host.reachable_run reset_while_offered) (by decide +kernel)
  obtain ⟨_, hafter⟩ := hstays [.loop_process 0 0] ⟨nofun, trivial⟩
  have howner := hafter.1
  revert howner
  decide +kernel

end

end scrutiny
