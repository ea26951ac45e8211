import Scrutiny.Ownership.Token
import Scrutiny.Comm.Delivery
import Scrutiny.Host

open foundation

namespace scrutiny

open datalogging protocol

section

variable [Platform]

namespace System

open MainHandler

/-- The loops with an offer of the datalogger in their slot. -/
def offers (s : System) : Finset LoopId :=
  (Finset.range s.loop_count).filter fun i =>
    s.main2loop i = some .TAKE_DATALOGGER_OWNERSHIP

/-- The ownerships given or on their way. -/
def tokens (s : System) : Nat := s.offers.card + if s.datalogger.m_owner.isSome then 1 else 0

/-- The ownership of the datalogger is a single token. -/
structure SingleToken (s : System) : Prop where
  tokens_le : s.tokens ≤ 1
  error : s.datalogging.error = .NoError
  agreed : (∀ i < s.loop_count, s.main2loop i = none ∧ s.loop2main i = none) →
    s.datalogging.owner = s.datalogger.m_owner

/-- A configuration that is accepted in the call is for the loop that the datalogger is
offered to, if there is one. -/
def SingleOffer (s : System) : Event → Prop
  | .process timestep_100ns _ =>
    let s := begin_process s timestep_100ns
    ∀ i < s.loop_count, s.main2loop i = some .TAKE_DATALOGGER_OWNERSHIP →
      accepted_configuration s = none ∨ accepted_configuration s = some i
  | _ => True

instance (s : System) (e : Event) : Decidable (SingleOffer s e) :=
  match e with
  | .process timestep_100ns _ => inferInstanceAs (Decidable (
    ∀ i < (begin_process s timestep_100ns).loop_count,
      (begin_process s timestep_100ns).main2loop i = some .TAKE_DATALOGGER_OWNERSHIP →
        accepted_configuration (begin_process s timestep_100ns) = none ∨
          accepted_configuration (begin_process s timestep_100ns) = some i))
  | .receive_data _ _ | .pop_data _ | .loop_process _ _ | .application _ =>
    inferInstanceAs (Decidable True)

theorem mem_offers {s : System} {i : LoopId} :
    i ∈ s.offers ↔ i < s.loop_count ∧ s.main2loop i = some .TAKE_DATALOGGER_OWNERSHIP := by
  simp [offers]

end System

namespace InPhase

variable {phase : Handoff LoopId} {s : System}

theorem offers_eq (h : InPhase phase s)
    (htake : ∀ i < s.loop_count,
      s.main2loop i = some .TAKE_DATALOGGER_OWNERSHIP ↔ phase.offer = some i) :
    s.offers = phase.offer.elim ∅ fun a => {a} := by
  ext i
  rw [System.mem_offers]
  constructor
  · rintro ⟨hi, hhere⟩
    rw [(htake i hi).mp hhere]
    exact Finset.mem_singleton_self i
  · intro hmem
    cases phase with
    | offered a =>
      obtain rfl := Finset.mem_singleton.mp hmem
      exact ⟨h.worker_lt i rfl, (htake i (h.worker_lt i rfl)).mpr rfl⟩
    | free | claimed _ | owned _ | released _ => exact absurd hmem (Finset.notMem_empty i)

/-- A phase is a state with one token. -/
theorem single_token (h : InPhase phase s)
    (hoffers : s.offers = phase.offer.elim ∅ fun a => {a}) : s.SingleToken := by
  refine ⟨?_, h.error, fun hempty => ?_⟩
  · rw [System.tokens, hoffers, h.datalogger_owner]
    cases phase with
    | offered a => exact (Finset.card_singleton a).le
    | free | claimed _ | owned _ | released _ => simp [Handoff.offer, Handoff.holder]
  · rw [h.owner, h.datalogger_owner]
    rcases h.phase_cases_of_silent fun i hi => (hempty i hi).2 with rfl | ⟨a, rfl⟩ | ⟨a, rfl⟩
    · rfl
    · rfl
    · rfl

end InPhase

namespace Tracks

open MainHandler

variable {phase : Handoff LoopId} {s : System}

theorem take_iff (h : Tracks phase s) {i : LoopId} (hi : i < s.loop_count) :
    s.main2loop i = some .TAKE_DATALOGGER_OWNERSHIP ↔ phase.offer = some i := by
  constructor
  · intro htake
    rcases h.main2loop_cases hi htake with ⟨rfl, _⟩ | ⟨_, hne⟩
    · rfl
    · exact absurd rfl hne
  · intro hoffer
    cases phase with
    | offered a =>
      cases hoffer
      exact (h.main2loop i hi).trans (if_pos rfl)
    | free | claimed _ | owned _ | released _ => cases hoffer

theorem single_token (h : Tracks phase s) : s.SingleToken :=
  h.toInPhase.single_token (h.toInPhase.offers_eq fun _ hi => h.take_iff hi)

/-- The exchange with the loops, once. -/
theorem exchange (h : Tracks phase s) :
    ∃ phase', Relation.ReflTransGen Handoff.Step phase phase' ∧
      Settled phase' (MainHandler.process_datalogging_logic (MainHandler.process_loops s)) := by
  obtain ⟨noted, hnoted, htracks, hsilent⟩ := h.process_loops
  have hcount := (process_loops_frame s).loop_count
  obtain ⟨told, htold, hsettled⟩ := Settled.process_datalogging_logic ⟨htracks, hcount ▸ hsilent⟩
  exact ⟨told, hnoted.trans htold, hsettled⟩

theorem begin_process (h : Tracks phase s) (timestep_100ns : timediff_t) :
    ∃ phase', Relation.ReflTransGen Handoff.Step phase phase' ∧
      Settled phase' (MainHandler.begin_process s timestep_100ns) :=
  (h.frame (ticked_frame s timestep_100ns)).exchange

theorem end_process (h : Tracks phase s) :
    ∃ phase', Relation.ReflTransGen Handoff.Step phase phase' ∧
      Settled phase' (MainHandler.end_process s) :=
  (h.frame (finished_frame s)).exchange

/-- A call of `process` moves the token forward. -/
theorem process (h : Tracks phase s) (henabled : s.main.m_enabled = true)
    (timestep_100ns : timediff_t) (stack : Stack)
    (hsingle : s.SingleOffer (.process timestep_100ns stack)) :
    ∃ phase', Relation.ReflTransGen Handoff.Step phase phase' ∧
      Tracks phase' (MainHandler.process s timestep_100ns stack) := by
  obtain ⟨begun, hbegun, hsettled⟩ := h.begin_process timestep_100ns
  have hserved := hsettled.serve_request stack fun c hc i hi htake => by
    rcases hsingle i hi htake with hnone | hsame
    · cases hc.symm.trans hnone
    · exact Option.some.inj (hsame.symm.trans hc)
  obtain ⟨ended, hended, hafter⟩ := hserved.tracks.end_process
  rw [process_eq henabled]
  exact ⟨ended, hbegun.trans hended, hafter.tracks⟩

end Tracks

namespace System

open MainHandler

/-- Under the condition, a run is a run of the token. -/
theorem simulates_handoff :
    Simulates step SingleOffer Handoff.Step fun phase s => s.main.Ready ∧ Tracks phase s := by
  rintro phase s e ⟨hready, htracks⟩ hsingle
  have hnext := step_ready hready e
  cases e with
  | receive_data data len => exact ⟨phase, .refl, hnext, htracks.frame ⟨rfl, rfl, rfl⟩⟩
  | pop_data len =>
    have hpopped : Tracks phase (s.set_comm (s.comm.pop_data s.main.m_timebase len).1) :=
      htracks.frame ⟨rfl, rfl, rfl⟩
    exact ⟨phase, .refl, hnext, hpopped.frame (finished_frame _)⟩
  | process timestep_100ns stack =>
    obtain ⟨phase', hpath, htracks'⟩ := htracks.process hready.enabled timestep_100ns stack hsingle
    exact ⟨phase', hpath, hnext, htracks'⟩
  | loop_process id timestep_100ns =>
    by_cases hid : id < s.loop_count
    · obtain ⟨phase', hpath, htracks'⟩ := htracks.process_common hid timestep_100ns
      refine ⟨phase', hpath, hnext, ?_⟩
      rw [step, if_pos hid]
      exact htracks'
    · refine ⟨phase, .refl, hnext, ?_⟩
      rw [step, if_neg hid]
      exact htracks
  | application bytes => exact ⟨phase, .refl, hnext, htracks.frame ⟨rfl, rfl, rfl⟩⟩

theorem initial_tracks {s : System} (hinitial : Initial s) : Tracks .free s := by
  obtain ⟨before, m_config, hinit⟩ := hinitial
  unfold MainHandler.init at hinit
  simp only at hinit
  split at hinit
  · simp at hinit
  · split at hinit
    · simp at hinit
    · simp only [Prod.mk.injEq, true_and] at hinit
      subst hinit
      have hslots {i : LoopId} (hi : i < m_config.m_loop_count.toNat) :
          (init_loops m_config.m_loop_count.toNat before.loops i).m_main2loop_msg = none ∧
            (init_loops m_config.m_loop_count.toNat before.loops i).m_loop2main_msg = none := by
        simp only [init_loops, if_pos hi]
        exact ⟨rfl, rfl⟩
      refine ⟨⟨rfl, rfl, rfl, ?_, fun i hi => (hslots hi).2⟩, ?_, ?_, fun i hi => (hslots hi).1⟩
      · intro a ha
        cases ha
      · intro b hb
        cases hb
      · intro a b ha
        cases ha

/-- A configuration for one loop while the datalogger is offered to another one makes a
second offer. -/
theorem two_tokens {s : System} (hready : s.main.Ready) {phase : Handoff LoopId}
    (htracks : Tracks phase s) {e : Event} (hdouble : ¬ SingleOffer s e) :
    ¬ (step s e).SingleToken := by
  cases e with
  | process timestep_100ns stack =>
    let begun := begin_process s timestep_100ns
    let served := serve_request begun stack
    simp only [SingleOffer, not_forall, not_or] at hdouble
    obtain ⟨i, hi, htake, hsome, hother⟩ := hdouble
    obtain ⟨c, hc⟩ := Option.ne_none_iff_exists'.mp hsome
    have hne : i ≠ c := fun h => hother (h ▸ hc)
    obtain ⟨_, _, hbegun⟩ := htracks.begin_process timestep_100ns
    obtain ⟨howner, herror, _, hnew_owner⟩ := serve_request_ownership begun stack
    obtain ⟨hfree, hlt⟩ := accepted_configuration_eq_some hc
    have hloops : served.loops = begun.loops := serve_request_loops begun stack
    have hcount : served.loop_count = begun.loop_count :=
      congrArg (fun m_config : Config => m_config.m_loop_count.toNat)
        (serve_request_config begun stack)
    have hslots : served.main2loop = begun.main2loop := by
      unfold System.main2loop
      rw [hloops]
    have hsilent : ∀ i < served.loop_count, served.loop2main i = none := by
      unfold System.loop2main
      rw [hcount, hloops]
      exact hbegun.silent
    have hoffer : offered_to served = some c := by
      rw [offered_to_eq_some, hnew_owner, hslots, hc]
      exact ⟨rfl, hbegun.room_of_offer hfree hi htake hlt hne.symm⟩
    have hend (j : LoopId) := end_process_main2loop_of_offer (herror.trans hbegun.tracks.error)
      (howner.trans hfree) hsilent hoffer j
    have hended : (step s (.process timestep_100ns stack)).main2loop = (end_process served).main2loop :=
      congrArg System.main2loop (process_eq hready.enabled timestep_100ns stack)
    have hends : (step s (.process timestep_100ns stack)).loop_count = served.loop_count := by
      rw [step, process_eq hready.enabled, end_process_loop_count]
    have htwo : 1 < (step s (.process timestep_100ns stack)).offers.card := by
      refine Finset.one_lt_card.mpr ⟨i, ?_, c, ?_, hne⟩
      · rw [mem_offers, hends, hcount, hended, hend, if_neg hne, hslots]
        exact ⟨hi, htake⟩
      · rw [mem_offers, hends, hcount, hended, hend, if_pos rfl]
        exact ⟨hlt, rfl⟩
    intro hsingle
    have hone := hsingle.tokens_le
    rw [tokens] at hone
    omega
  | receive_data => exact absurd trivial hdouble
  | pop_data => exact absurd trivial hdouble
  | loop_process => exact absurd trivial hdouble
  | application => exact absurd trivial hdouble

/-- In every run of an initialized handler, the ownership is a single token just when no
configuration is accepted for a loop while the datalogger is offered to another one. -/
theorem single_token_iff {s : System} (hinitial : Initial s) (events : List Event) :
    Always step SingleToken s events ↔ Along step SingleOffer s events := by
  have hstep : ∀ s e, (∃ phase, s.main.Ready ∧ Tracks phase s) → SingleOffer s e →
      ∃ phase, (step s e).main.Ready ∧ Tracks phase (step s e) :=
    fun s e hinv hsingle => simulates_handoff.preserves hinv hsingle
  refine always_iff_along hstep ?_ ?_ ⟨.free, initial_ready hinitial, initial_tracks hinitial⟩
  · rintro s ⟨phase, _, htracks⟩
    exact htracks.single_token
  · rintro s e ⟨phase, hready, htracks⟩ hdouble
    exact two_tokens hready htracks hdouble

end System

end

section

attribute [local instance] host.platform

theorem single_token_one_loop :
    Always System.step System.SingleToken host.start
      (host.connect ++ host.configure 0 128 ++ [.loop_process 0 0]) :=
  (System.single_token_iff host.initial_start _).mpr (by decide +kernel)

/-- Two configurations in a row, for different loops that have not run in between. -/
def two_configurations : List Event :=
  host.connect ++ host.configure 0 128 ++ host.configure 1 128 ++
    [.loop_process 0 0, .loop_process 1 0, .process 0 host.stack]

/-- Both loops take the datalogger. -/
theorem two_loops_claim :
    ¬ ∀ s events, System.Initial s → Always System.step System.SingleToken s events := by
  intro hsingle
  have hlast := (hsingle host.start two_configurations host.initial_start).last.error
  revert hlast
  decide +kernel

end

end scrutiny
