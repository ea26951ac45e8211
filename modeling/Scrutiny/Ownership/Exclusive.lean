import Scrutiny.Ownership.Single

open foundation

namespace scrutiny

open datalogging protocol

section

variable [Platform]

namespace MainHandler

/-- The requests that write the datalogger. -/
def writes_datalogger (s : System) : Prop :=
  served s = some .ConfigureDatalog ∨ served s = some .ResetDatalogger

instance (s : System) : Decidable (writes_datalogger s) :=
  inferInstanceAs (Decidable (_ ∨ _))

/-- With an owner, the requests that write the datalogger wait for its release. -/
theorem serve_request_datalogger_of_owner {s : System} (hwrites : writes_datalogger s)
    (howner : s.datalogging.owner ≠ none) (stack : Stack) :
    (serve_request s stack).datalogger = s.datalogger := by
  obtain ⟨a, ha⟩ := Option.ne_none_iff_exists'.mp howner
  obtain ⟨response, hdatalogging⟩ := serve_request_datalogging s stack
  have hreleased (d : Datalogging) : (request_release d).datalogger = d.datalogger := by
    unfold request_release
    split <;> rfl
  have hdatalogger : (serve_request s stack).datalogger =
      (serve_request s stack).datalogging.datalogger := rfl
  rw [hdatalogger, hdatalogging]
  rcases hwrites with hserved | hserved
  · have howned : s.main.m_datalogging.owner = some a := ha
    have hresult := configure_datalog_of_owner howned s.loops s.comm.m_active_request
    rw [hserved]
    simp only [configuration_result, hresult]
    exact hreleased _
  · rw [hserved]
    simp only [reset_datalogger, ha]
    exact hreleased _

end MainHandler

namespace System

open MainHandler

/-- No loop runs the datalogger, or is about to. -/
def AtRest (s : System) : Prop := s.datalogger.m_owner = none ∧ s.offers = ∅

/-- The datalogger is at rest whenever a request comes to the part that writes it, where no
owner is known, or leaves it changed. -/
def WritesAtRest (s : System) : Event → Prop
  | .process timestep_100ns stack =>
    let s := begin_process s timestep_100ns
    writes_datalogger s →
      s.datalogging.owner = none ∨ (serve_request s stack).datalogger ≠ s.datalogger → s.AtRest
  | _ => True

/-- When a request that writes the datalogger finds no owner, no loop was chosen to be the
next owner before the call, and none had an offer. -/
def NothingPending (s : System) : Event → Prop
  | .process timestep_100ns _ =>
    writes_datalogger (begin_process s timestep_100ns) →
      (begin_process s timestep_100ns).datalogging.owner = none →
        s.datalogging.new_owner = none ∧ s.offers = ∅
  | _ => True

instance (s : System) (e : Event) : Decidable (NothingPending s e) :=
  match e with
  | .process timestep_100ns _ => inferInstanceAs (Decidable
    (writes_datalogger (begin_process s timestep_100ns) →
      (begin_process s timestep_100ns).datalogging.owner = none →
        s.datalogging.new_owner = none ∧ s.offers = ∅))
  | .receive_data _ _ | .pop_data _ | .loop_process _ _ | .application _ =>
    inferInstanceAs (Decidable True)

theorem offers_eq_empty {s : System} :
    s.offers = ∅ ↔ ∀ i < s.loop_count, s.main2loop i ≠ some .TAKE_DATALOGGER_OWNERSHIP := by
  simp [offers, Finset.filter_eq_empty_iff]

/-- The offers that a request finds are those there were before the call, and the one
that is made to the next owner. -/
theorem begin_process_offers_eq_empty {s : System} {phase : Handoff LoopId}
    (htracks : Tracks phase s) {timestep_100ns : timediff_t}
    (hfree : (begin_process s timestep_100ns).datalogging.owner = none) :
    (begin_process s timestep_100ns).offers = ∅ ↔
      s.datalogging.new_owner = none ∧ s.offers = ∅ := by
  let noted := MainHandler.process_loops (ticked s timestep_100ns)
  have hticked : Tracks phase (ticked s timestep_100ns) :=
    htracks.frame (ticked_frame s timestep_100ns)
  obtain ⟨phase', _, hnoted, hsilent⟩ := hticked.process_loops
  have hcount : noted.loop_count = s.loop_count := (process_loops_frame _).loop_count
  have hnew_owner : noted.datalogging.new_owner = s.datalogging.new_owner :=
    (process_loops_keeps (ticked s timestep_100ns)).1
  have howner : noted.datalogging.owner = none :=
    (process_datalogging_logic_owner noted).1.symm.trans hfree
  have hslots (i : LoopId) : noted.main2loop i = s.main2loop i :=
    process_loops_main2loop (ticked s timestep_100ns) i
  have htake (i : LoopId) := process_datalogging_logic_take noted i
  rw [offers_eq_empty, offers_eq_empty, begin_process_loop_count, begin_process_eq]
  constructor
  · intro hnone
    refine ⟨hnew_owner.symm.trans (new_owner_eq_none_of_no_offer hnoted.error howner ?_ ?_), ?_⟩
    · intro c hc
      exact Tracks.Settled.slot_of_free ⟨hnoted, hcount ▸ hsilent⟩ howner
        (hnoted.new_owner_lt c hc)
    · intro c hc
      exact hnone c (hcount ▸ hnoted.new_owner_lt c hc)
    · intro i hi hhere
      exact hnone i hi ((htake i).mpr (.inl ((hslots i).trans hhere)))
  · rintro ⟨hnext, hnone⟩ i hi hhere
    rcases (htake i).mp hhere with hbefore | ⟨_, _, hoffer⟩
    · exact hnone i hi ((hslots i).symm.trans hbefore)
    · have hchosen := (offered_to_eq_some.mp hoffer).1
      rw [hnew_owner, hnext] at hchosen
      cases hchosen

theorem writes_at_rest_iff {s : System} {phase : Handoff LoopId} (htracks : Tracks phase s)
    (e : Event) : WritesAtRest s e ↔ NothingPending s e := by
  cases e with
  | process timestep_100ns stack =>
    obtain ⟨phase', _, hbegun⟩ := htracks.begin_process timestep_100ns
    refine forall_congr' fun hwrites => ?_
    by_cases hfree : (begin_process s timestep_100ns).datalogging.owner = none
    · have hpending := begin_process_offers_eq_empty htracks hfree
      constructor
      · intro hrest _
        exact hpending.mp (hrest (.inl hfree)).2
      · intro hnone _
        have hoffers := hpending.mpr (hnone hfree)
        refine ⟨?_, hoffers⟩
        rw [hbegun.tracks.datalogger_owner]
        rcases hbegun.phase_cases with rfl | ⟨a, rfl⟩ | ⟨a, rfl⟩
        · rfl
        · rfl
        · cases hbegun.tracks.owner.symm.trans hfree
    · have hkept := serve_request_datalogger_of_owner hwrites hfree stack
      refine iff_of_true ?_ (fun h => absurd h hfree)
      rintro (h | h)
      · exact absurd h hfree
      · exact absurd hkept h
  | receive_data => exact Iff.rfl
  | pop_data => exact Iff.rfl
  | loop_process => exact Iff.rfl
  | application => exact Iff.rfl

theorem NothingPending.single_offer {s : System} {phase : Handoff LoopId}
    (htracks : Tracks phase s) {e : Event} (hpending : NothingPending s e) : SingleOffer s e := by
  cases e with
  | process timestep_100ns stack =>
    intro i hi htake
    by_contra hother
    obtain ⟨hsome, _⟩ := not_or.mp hother
    obtain ⟨c, hc⟩ := Option.ne_none_iff_exists'.mp hsome
    have hfree := (accepted_configuration_eq_some hc).1
    have hserved : served (begin_process s timestep_100ns) = some .ConfigureDatalog := by
      unfold accepted_configuration at hc
      split at hc
      · rename_i hserved
        exact hserved.1
      · cases hc
    have hoffers := (begin_process_offers_eq_empty htracks hfree).mpr
      (hpending (.inl hserved) hfree)
    exact offers_eq_empty.mp hoffers i hi htake
  | receive_data => trivial
  | pop_data => trivial
  | loop_process => trivial
  | application => trivial

/-- In every run of an initialized handler, the datalogger is only written at rest just when
no ownership is pending when a request that writes it finds no owner. -/
theorem written_at_rest_iff {s : System} (hinitial : Initial s) (events : List Event) :
    Along step WritesAtRest s events ↔ Along step NothingPending s events := by
  have hstep : ∀ s e, (∃ phase, s.main.Ready ∧ Tracks phase s) → NothingPending s e →
      ∃ phase, (step s e).main.Ready ∧ Tracks phase (step s e) := by
    rintro s e ⟨phase, hready, htracks⟩ hpending
    exact simulates_handoff.preserves ⟨phase, hready, htracks⟩ (hpending.single_offer htracks)
  refine along_iff_along hstep ?_ ⟨.free, initial_ready hinitial, initial_tracks hinitial⟩
  rintro s e ⟨phase, _, htracks⟩
  exact writes_at_rest_iff htracks e

end System

end

section

attribute [local instance] host.platform

/-- The release of the datalogger is waited for before it is configured again. -/
theorem written_at_rest_after_release :
    Along System.step System.WritesAtRest host.start
      (host.connect ++ host.configure 0 128 ++
        [.loop_process 0 0, .process 0 host.stack, host.receive (host.frame 5 8 []),
          .process 0 host.stack, .loop_process 0 0, .process 0 host.stack]) :=
  (System.written_at_rest_iff host.initial_start _).mpr (by decide +kernel)

/-- The second configuration finds the offer of the first. -/
def configuration_while_offered : List Event :=
  host.connect ++ host.configure 0 128 ++
    [host.receive (host.frame 5 2 (host.configuration 0 128))]

theorem written_while_offered :
    ¬ ∀ s events, System.Initial s → Along System.step System.WritesAtRest s events := by
  intro hrest
  have hrun := hrest host.start (configuration_while_offered ++ [.process 0 host.stack])
    host.initial_start
  obtain ⟨hlast, _⟩ := (Along.append.mp hrun).2
  have hatrest := hlast (by decide +kernel) (.inl (by decide +kernel))
  have hoffers := hatrest.2
  revert hoffers
  decide +kernel

end

end scrutiny
