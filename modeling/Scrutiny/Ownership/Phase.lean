import Scrutiny.Foundation.Handoff
import Scrutiny.Ownership.Exchange
import Scrutiny.Ownership.Loop
import Scrutiny.Ownership.Requests

open foundation

namespace scrutiny

open datalogging protocol

/-- The messages from a loop that are possible in a phase of the ownership. -/
def fits_loop2main (phase : Handoff LoopId) (id : LoopId) (slot : Option Loop2MainMessage) : Prop :=
  match phase with
  | .claimed a => slot = if id = a then some .DATALOGGER_OWNERSHIP_TAKEN else none
  | .released a => slot = if id = a then some .DATALOGGER_OWNERSHIP_RELEASED else none
  | .owned a => slot = none ∨ id = a ∧ ∃ msg, LoopHandler.is_report msg = true ∧ slot = some msg
  | .free | .offered _ => slot = none

theorem fits_loop2main_noted (phase : Handoff LoopId) (id : LoopId) :
    fits_loop2main phase.noted id none := by
  cases phase with
  | free | offered _ | released _ => rfl
  | claimed _ | owned _ => exact .inl rfl

/-- The phase once a loop acted on a message. -/
def answered (phase : Handoff LoopId) (id : LoopId) : Option Main2LoopMessage → Handoff LoopId
  | some .TAKE_DATALOGGER_OWNERSHIP => .claimed id
  | some .RELEASE_DATALOGGER_OWNERSHIP => .released id
  | some .DATALOGGER_ARM_TRIGGER | some .DATALOGGER_DISARM_TRIGGER | none => phase

/-- An offer is made to the loop that reads it, and the release is asked of the owner. -/
structure Addressed (phase : Handoff LoopId) (id : LoopId) (msg : Option Main2LoopMessage) :
    Prop where
  take : msg = some .TAKE_DATALOGGER_OWNERSHIP → phase = .offered id
  release : msg = some .RELEASE_DATALOGGER_OWNERSHIP → phase = .owned id

namespace Addressed

open LoopHandler

variable {phase : Handoff LoopId} {id : LoopId} {msg : Option Main2LoopMessage}

/-- A message either moves the token, or changes nothing about it. -/
theorem cases (h : Addressed phase id msg) :
    phase = .offered id ∧ msg = some .TAKE_DATALOGGER_OWNERSHIP ∨
      phase = .owned id ∧ msg = some .RELEASE_DATALOGGER_OWNERSHIP ∨
      answered phase id msg = phase ∧ owner_after phase.holder id msg = phase.holder ∧
        answer_to phase.holder id msg = none := by
  cases msg with
  | none => exact .inr (.inr ⟨rfl, rfl, rfl⟩)
  | some msg =>
    cases msg with
    | TAKE_DATALOGGER_OWNERSHIP => exact .inl ⟨h.take rfl, rfl⟩
    | RELEASE_DATALOGGER_OWNERSHIP => exact .inr (.inl ⟨h.release rfl, rfl⟩)
    | DATALOGGER_ARM_TRIGGER => exact .inr (.inr ⟨rfl, rfl, rfl⟩)
    | DATALOGGER_DISARM_TRIGGER => exact .inr (.inr ⟨rfl, rfl, rfl⟩)

theorem answered_reachable (h : Addressed phase id msg) :
    Relation.ReflTransGen Handoff.Step phase (answered phase id msg) := by
  rcases h.cases with ⟨rfl, rfl⟩ | ⟨rfl, rfl⟩ | ⟨hsame, _⟩
  · exact .single (.claim id)
  · exact .single (.release id)
  · rw [hsame]

theorem worker_answered (h : Addressed phase id msg) :
    (answered phase id msg).worker = phase.worker := by
  rcases h.cases with ⟨rfl, rfl⟩ | ⟨rfl, rfl⟩ | ⟨hsame, _⟩
  · rfl
  · rfl
  · rw [hsame]

theorem known_answered (h : Addressed phase id msg) :
    (answered phase id msg).known = phase.known := by
  rcases h.cases with ⟨rfl, rfl⟩ | ⟨rfl, rfl⟩ | ⟨hsame, _⟩
  · rfl
  · rfl
  · rw [hsame]

theorem holder_answered (h : Addressed phase id msg) :
    (answered phase id msg).holder = owner_after phase.holder id msg := by
  rcases h.cases with ⟨rfl, rfl⟩ | ⟨rfl, rfl⟩ | ⟨hsame, howner, _⟩
  · rfl
  · exact (if_pos rfl).symm
  · rw [hsame, howner]

end Addressed

variable [Platform]

/-- The members that keep the ownership, and what the loops say of it, agree with one phase of
the token. -/
structure InPhase (phase : Handoff LoopId) (s : System) : Prop where
  error : s.datalogging.error = .NoError
  owner : s.datalogging.owner = phase.known
  datalogger_owner : s.datalogger.m_owner = phase.holder
  worker_lt : ∀ a, phase.worker = some a → a < s.loop_count
  loop2main : ∀ i < s.loop_count, fits_loop2main phase i (s.loop2main i)

namespace InPhase

open MainHandler LoopHandler

variable {phase : Handoff LoopId} {s s' : System}

/-- A step that does not bring in another worker. -/
theorem advance (h : InPhase phase s) {phase' : Handoff LoopId}
    (hworker : phase'.worker = none ∨ phase'.worker = phase.worker)
    (hcount : s'.loop_count = s.loop_count) (herror : s'.datalogging.error = .NoError)
    (howner : s'.datalogging.owner = phase'.known)
    (hdatalogger_owner : s'.datalogger.m_owner = phase'.holder)
    (hloop2main : ∀ i < s.loop_count, fits_loop2main phase' i (s'.loop2main i)) :
    InPhase phase' s' := by
  refine ⟨herror, howner, hdatalogger_owner, ?_, hcount ▸ hloop2main⟩
  intro a ha
  rw [hcount]
  rcases hworker with hnone | hkept
  · rw [hnone] at ha
    cases ha
  · exact h.worker_lt a (hkept.symm.trans ha)

/-- Only the members that the relation looks at matter. -/
theorem congr (h : InPhase phase s) (hcount : s'.loop_count = s.loop_count)
    (herror : s'.datalogging.error = s.datalogging.error)
    (howner : s'.datalogging.owner = s.datalogging.owner)
    (hdatalogger_owner : s'.datalogger.m_owner = s.datalogger.m_owner)
    (hloop2main : s'.loop2main = s.loop2main) : InPhase phase s' := by
  apply h.advance (.inr rfl) hcount
  · rw [herror, h.error]
  · rw [howner, h.owner]
  · rw [hdatalogger_owner, h.datalogger_owner]
  · rw [hloop2main]
    exact h.loop2main

theorem frame (h : InPhase phase s) (hframe : DataloggingFrame s s') : InPhase phase s' := by
  apply h.congr hframe.loop_count
  · rw [hframe.datalogging]
  · rw [hframe.datalogging]
  · rw [hframe.datalogger]
  · exact hframe.loop2main

/-- A message comes from the loop that the token is with, or on its way to or from. -/
theorem message_cases (h : InPhase phase s) {id : LoopId} (hid : id < s.loop_count)
    {msg : Loop2MainMessage} (hmsg : s.loop2main id = some msg) :
    phase = .claimed id ∧ msg = .DATALOGGER_OWNERSHIP_TAKEN ∨
      phase = .released id ∧ msg = .DATALOGGER_OWNERSHIP_RELEASED ∨
      phase = .owned id ∧ is_report msg = true := by
  have hfits := h.loop2main id hid
  rw [hmsg] at hfits
  cases phase with
  | free => cases hfits
  | offered a => cases hfits
  | claimed a =>
    rw [fits_loop2main] at hfits
    split at hfits
    · rename_i hown
      cases hfits
      exact .inl ⟨congrArg Handoff.claimed hown.symm, rfl⟩
    · cases hfits
  | released a =>
    rw [fits_loop2main] at hfits
    split at hfits
    · rename_i hown
      cases hfits
      exact .inr (.inl ⟨congrArg Handoff.released hown.symm, rfl⟩)
    · cases hfits
  | owned a =>
    rcases hfits with hempty | ⟨hown, other, hreport, hother⟩
    · cases hempty
    · cases hother
      exact .inr (.inr ⟨congrArg Handoff.owned hown.symm, hreport⟩)

theorem worker_of_message (h : InPhase phase s) {id : LoopId} (hid : id < s.loop_count)
    {msg : Loop2MainMessage} (hmsg : s.loop2main id = some msg) : phase.worker = some id := by
  rcases h.message_cases hid hmsg with ⟨rfl, _⟩ | ⟨rfl, _⟩ | ⟨rfl, _⟩
  · rfl
  · rfl
  · rfl

theorem silent_of_ne (h : InPhase phase s) {a i : LoopId} (hworker : phase.worker = some a)
    (hi : i < s.loop_count) (hne : i ≠ a) : s.loop2main i = none := by
  by_contra hsome
  obtain ⟨msg, hmsg⟩ := Option.ne_none_iff_exists'.mp hsome
  exact hne (Option.some.inj ((h.worker_of_message hi hmsg).symm.trans hworker))

/-- A loop has something to say of the ownership when the main handler does not know of it. -/
theorem phase_cases_of_silent (h : InPhase phase s)
    (hsilent : ∀ i < s.loop_count, s.loop2main i = none) :
    phase = .free ∨ (∃ a, phase = .offered a) ∨ ∃ a, phase = .owned a := by
  cases phase with
  | free => exact .inl rfl
  | offered a => exact .inr (.inl ⟨a, rfl⟩)
  | owned a => exact .inr (.inr ⟨a, rfl⟩)
  | claimed a =>
    have ha := h.worker_lt a rfl
    have hmsg := (h.loop2main a ha).symm.trans (hsilent a ha)
    rw [if_pos rfl] at hmsg
    cases hmsg
  | released a =>
    have ha := h.worker_lt a rfl
    have hmsg := (h.loop2main a ha).symm.trans (hsilent a ha)
    rw [if_pos rfl] at hmsg
    cases hmsg

/-- The main handler takes note of one message. -/
theorem process_loop (h : InPhase phase s) {id : LoopId} (hid : id < s.loop_count)
    {msg : Loop2MainMessage} (hmsg : s.loop2main id = some msg) :
    InPhase phase.noted (MainHandler.process_loop s id) := by
  have hworker := h.worker_of_message hid hmsg
  have hdatalogging : (MainHandler.process_loop s id).datalogging =
      process_datalogging_loop_msg s.datalogging id msg := by
    rw [process_loop_of_message hmsg]
    rfl
  have hnoted : (process_datalogging_loop_msg s.datalogging id msg).error = .NoError ∧
      (process_datalogging_loop_msg s.datalogging id msg).owner = phase.noted.known := by
    rcases h.message_cases hid hmsg with ⟨rfl, rfl⟩ | ⟨rfl, rfl⟩ | ⟨rfl, hreport⟩
    · simp [process_datalogging_loop_msg, h.error, h.owner, Handoff.known, Handoff.noted]
    · simp [process_datalogging_loop_msg, h.error, h.owner, Handoff.known, Handoff.noted]
    · cases msg with
      | DATALOGGER_OWNERSHIP_TAKEN => cases hreport
      | DATALOGGER_OWNERSHIP_RELEASED => cases hreport
      | DATALOGGER_DATA_ACQUIRED => exact ⟨h.error, h.owner⟩
      | DATALOGGER_STATUS_UPDATE update => exact ⟨h.error, h.owner⟩
  apply h.advance phase.worker_noted (process_loop_frame s id).loop_count
  · rw [hdatalogging, hnoted.1]
  · rw [hdatalogging, hnoted.2]
  · rw [(process_loop_keeps s id).2, phase.holder_noted, h.datalogger_owner]
  · intro i hi
    have hempty : (MainHandler.process_loop s id).loop2main i = none := by
      rw [process_loop_loop2main]
      split
      · rfl
      · rename_i hne
        exact h.silent_of_ne hworker hi hne
    rw [hempty]
    exact fits_loop2main_noted phase i

/-- What the main handler tells the loops does not touch what they keep themselves. -/
theorem process_datalogging_logic (h : InPhase phase s) :
    InPhase phase (MainHandler.process_datalogging_logic s) := by
  obtain ⟨howner, herror⟩ := process_datalogging_logic_owner s
  apply h.congr (process_datalogging_logic_frame s).loop_count herror howner
  · rw [process_datalogging_logic_datalogger]
  · exact funext (process_datalogging_logic_loop2main s)

/-- An offer shows only in the slot that it is put in. -/
theorem offer (h : InPhase .free s) {b : LoopId} (hb : b < s.loop_count) :
    InPhase (.offered b) s := by
  refine ⟨h.error, h.owner, h.datalogger_owner, ?_, h.loop2main⟩
  intro a ha
  cases ha
  exact hb

theorem serve_request (h : InPhase phase s) (stack : Stack) :
    InPhase phase (MainHandler.serve_request s stack) := by
  obtain ⟨howner, herror, hdatalogger, _⟩ := serve_request_ownership s stack
  apply h.congr ?_ herror howner hdatalogger
  · unfold System.loop2main
    rw [serve_request_loops]
  · exact congrArg (fun m_config : Config => m_config.m_loop_count.toNat)
      (serve_request_config s stack)

/-- What a loop says in a call fits the phase after it. -/
theorem fits_answer (h : InPhase phase s) {id : LoopId} (hid : id < s.loop_count)
    (haddressed : Addressed phase id (received s id)) (timestep_100ns : timediff_t) :
    fits_loop2main (answered phase id (received s id)) id
      ((LoopHandler.process_common s id timestep_100ns).loop2main id) := by
  have hsaid := process_common_loop2main s id timestep_100ns
  rw [h.datalogger_owner] at hsaid
  rcases haddressed.cases with ⟨rfl, htake⟩ | ⟨rfl, hrelease⟩ | ⟨hsame, howner, hanswer⟩
  · rw [htake] at hsaid ⊢
    rw [(received_eq_some htake).1] at hsaid
    rcases hsaid with htaken | ⟨_, habsurd, _⟩
    · exact htaken.trans (if_pos rfl).symm
    · cases habsurd
  · rw [hrelease] at hsaid ⊢
    rw [(received_eq_some hrelease).1] at hsaid
    simp only [answer_to, Handoff.holder, if_true, Option.none_or] at hsaid
    rcases hsaid with hreleased | ⟨_, habsurd, _⟩
    · exact hreleased.trans (if_pos rfl).symm
    · cases habsurd
  · rw [howner, hanswer, Option.or_none] at hsaid
    rw [hsame]
    have hfits := h.loop2main id hid
    rcases hsaid with hsilent | ⟨hholder, hempty, msg, hreport, hmsg⟩
    · rw [hsilent]
      exact hfits
    · -- Only a loop that is known to be the owner has room for a report.
      rw [hempty] at hfits
      rw [hmsg]
      cases phase with
      | free | offered _ | released _ => cases hholder
      | claimed a =>
        cases hholder
        rw [fits_loop2main, if_pos rfl] at hfits
        cases hfits
      | owned a =>
        cases hholder
        exact .inr ⟨rfl, msg, hreport, rfl⟩

/-- A loop takes, keeps or gives back the datalogger. -/
theorem process_common (h : InPhase phase s) {id : LoopId} (hid : id < s.loop_count)
    (haddressed : Addressed phase id (received s id)) (timestep_100ns : timediff_t) :
    InPhase (answered phase id (received s id))
      (LoopHandler.process_common s id timestep_100ns) := by
  have hkept := process_common_datalogging s id timestep_100ns
  apply h.advance (.inr haddressed.worker_answered) (process_common_loop_count s id timestep_100ns)
  · rw [hkept]
    exact h.error
  · rw [hkept, haddressed.known_answered]
    exact h.owner
  · rw [process_common_owner, haddressed.holder_answered, h.datalogger_owner]
  · intro i hi
    by_cases hne : i = id
    · subst hne
      exact h.fits_answer hi haddressed timestep_100ns
    · rw [process_common_loop2main_of_ne s id timestep_100ns hne]
      have hfits := h.loop2main i hi
      rcases haddressed.cases with ⟨rfl, htake⟩ | ⟨rfl, hrelease⟩ | ⟨hsame, _⟩
      · rw [htake]
        exact hfits.trans (if_neg hne).symm
      · rw [hrelease]
        exact (hfits.resolve_right fun hown => hne hown.1).trans (if_neg hne).symm
      · rw [hsame]
        exact hfits

end InPhase

end scrutiny
