import Scrutiny.Ownership.Step

open foundation

namespace scrutiny

open datalogging protocol

variable [Platform]

open MainHandler LoopHandler

/-- The counters mean something in the Triggered state only, and are 0 in the others. -/
def DataloggerStatusUpdate.Coherent (update : DataloggerStatusUpdate) : Prop :=
  update.state ≠ .Triggered → update.bytes_to_acquire_from_trigger_to_completion = 0 ∧
    update.write_counter_since_trigger = 0

theorem LoopHandler.status_update_coherent (datalogger : DataLogger) :
    (status_update datalogger).Coherent := by
  unfold status_update
  split
  · rename_i htriggered
    exact fun hother => absurd htriggered hother
  · exact fun _ => ⟨rfl, rfl⟩

theorem LoopHandler.send_report_update {self : LoopHandler} {datalogger : DataLogger}
    {update : DataloggerStatusUpdate}
    (hmsg : (self.send_report datalogger).m_loop2main_msg =
      some (.DATALOGGER_STATUS_UPDATE update)) :
    self.m_loop2main_msg = some (.DATALOGGER_STATUS_UPDATE update) ∨
      update = status_update datalogger := by
  unfold send_report at hmsg
  split at hmsg
  · exact .inl hmsg
  · split at hmsg
    · cases hmsg
    · cases hmsg
      exact .inr rfl

omit [Platform] in
theorem LoopHandler.answer_to_not_report {owner : Option LoopId} {id : LoopId}
    {msg : Option Main2LoopMessage} {answer : Loop2MainMessage}
    (hanswer : answer_to owner id msg = some answer) : is_report answer = false := by
  unfold answer_to at hanswer
  split at hanswer
  · cases hanswer
    rfl
  · split at hanswer
    · cases hanswer
      rfl
    · cases hanswer
  · cases hanswer

/-- A status that a loop reports in a call is that of the datalogger that it owns. -/
theorem LoopHandler.process_common_update {s : System} {id : LoopId}
    {timestep_100ns : timediff_t} {update : DataloggerStatusUpdate}
    (hmsg : (process_common s id timestep_100ns).loop2main id =
      some (.DATALOGGER_STATUS_UPDATE update)) :
    s.loop2main id = some (.DATALOGGER_STATUS_UPDATE update) ∨
      (process_common s id timestep_100ns).datalogger.m_owner = some id ∧
        update = status_update (process_common s id timestep_100ns).datalogger := by
  have hinformed (hkept : (informed s id timestep_100ns).loop2main id =
      some (.DATALOGGER_STATUS_UPDATE update)) :
      s.loop2main id = some (.DATALOGGER_STATUS_UPDATE update) := by
    rw [(informed_spec s id timestep_100ns).2.2] at hkept
    rcases Option.or_eq_some_iff.mp hkept with hbefore | ⟨_, hanswer⟩
    · exact hbefore
    · cases answer_to_not_report hanswer
  rw [process_common_eq] at hmsg ⊢
  by_cases howns : owns_datalogger id (informed s id timestep_100ns).datalogger = true
  · have hdatalogger : (run_datalogger (informed s id timestep_100ns) id).datalogger = _ :=
      congrArg Datalogging.datalogger (run_datalogger_datalogging _ id)
    rw [if_pos howns] at hdatalogger
    rw [run_datalogger_owner, hdatalogger]
    rw [run_datalogger, if_pos howns] at hmsg
    simp only [System.set_loop_loop2main, if_true] at hmsg
    rcases send_report_update hmsg with hkept | hsaid
    · exact .inl (hinformed hkept)
    · exact .inr ⟨of_decide_eq_true howns, hsaid⟩
  · rw [run_datalogger, if_neg howns] at hmsg
    exact .inl (hinformed hmsg)

omit [Platform] in
theorem LoopHandler.owner_after_eq_some {owner : Option LoopId} {id i : LoopId}
    {msg : Option Main2LoopMessage} (hafter : owner_after owner id msg = some i) :
    msg = some .TAKE_DATALOGGER_OWNERSHIP ∧ i = id ∨
      msg ≠ some .TAKE_DATALOGGER_OWNERSHIP ∧ owner = some i ∧
        (msg = some .RELEASE_DATALOGGER_OWNERSHIP → i ≠ id) := by
  unfold owner_after at hafter
  split at hafter
  · exact .inl ⟨rfl, (Option.some.inj hafter).symm⟩
  · split at hafter
    · cases hafter
    · rename_i hother
      refine .inr ⟨by simp, hafter, fun _ hsame => hother ?_⟩
      rw [hafter, hsame]
  · rename_i htake hrelease
    exact .inr ⟨htake, hafter, fun hmsg => absurd hmsg hrelease⟩

/-- What the messages of the loops say in every run, whatever the requests are. -/
structure Reporting (s : System) : Prop where
  updates : ∀ i < s.loop_count, ∀ update,
    s.loop2main i = some (.DATALOGGER_STATUS_UPDATE update) → update.Coherent
  claims : s.datalogging.error = .NoError → ∀ i < s.loop_count, s.datalogger.m_owner = some i →
    s.datalogging.owner = some i ∨ s.loop2main i = some .DATALOGGER_OWNERSHIP_TAKEN
  reports : s.datalogging.error = .NoError → ∀ i < s.loop_count, ∀ msg, s.loop2main i = some msg →
    is_report msg = true → s.datalogging.owner = some i
  releases : ∀ i < s.loop_count, s.loop2main i = some .DATALOGGER_OWNERSHIP_RELEASED →
    s.datalogger.m_owner ≠ some i

namespace Reporting

variable {s : System}

theorem frame (h : Reporting s) {s' : System} (hframe : DataloggingFrame s s') : Reporting s' := by
  refine ⟨?_, ?_, ?_, ?_⟩
  · rw [hframe.loop_count, hframe.loop2main]
    exact h.updates
  · rw [hframe.loop_count, hframe.loop2main, hframe.datalogging, hframe.datalogger]
    exact h.claims
  · rw [hframe.loop_count, hframe.loop2main, hframe.datalogging]
    exact h.reports
  · rw [hframe.loop_count, hframe.loop2main, hframe.datalogger]
    exact h.releases

/-- A claim or a release that raises no error comes when it can. -/
theorem process_loop_owner (s : System) {id : LoopId} {msg : Loop2MainMessage}
    (hmsg : s.loop2main id = some msg)
    (herror : (MainHandler.process_loop s id).datalogging.error = .NoError) :
    s.datalogging.error = .NoError ∧
      match msg with
      | .DATALOGGER_OWNERSHIP_TAKEN => s.datalogging.owner = none ∧
          (MainHandler.process_loop s id).datalogging.owner = some id
      | .DATALOGGER_OWNERSHIP_RELEASED => s.datalogging.owner = some id ∧
          (MainHandler.process_loop s id).datalogging.owner = none
      | _ => (MainHandler.process_loop s id).datalogging.owner = s.datalogging.owner := by
  rw [process_loop_of_message hmsg, System.set_datalogging_datalogging] at herror ⊢
  cases msg with
  | DATALOGGER_OWNERSHIP_TAKEN =>
    have hfree : s.datalogging.owner = none := by
      by_contra howned
      simp [process_datalogging_loop_msg, howned] at herror
    exact ⟨by simpa [process_datalogging_loop_msg, hfree] using herror, hfree, rfl⟩
  | DATALOGGER_OWNERSHIP_RELEASED =>
    have howned : s.datalogging.owner = some id := by
      by_contra hother
      simp [process_datalogging_loop_msg, Ne.symm hother] at herror
    exact ⟨by simpa [process_datalogging_loop_msg, howned] using herror, howned, rfl⟩
  | DATALOGGER_DATA_ACQUIRED => exact ⟨herror, rfl⟩
  | DATALOGGER_STATUS_UPDATE update => exact ⟨herror, rfl⟩

theorem process_loop (h : Reporting s) {id : LoopId} (hid : id < s.loop_count) :
    Reporting (MainHandler.process_loop s id) := by
  cases hmsg : s.loop2main id with
  | none =>
    rw [process_loop_of_empty hmsg]
    exact h
  | some msg =>
    have hcount := (process_loop_frame s id).loop_count
    have hdatalogger := (process_loop_keeps s id).2
    have hslots {i : LoopId} {msg' : Loop2MainMessage}
        (hslot : (MainHandler.process_loop s id).loop2main i = some msg') :
        i ≠ id ∧ s.loop2main i = some msg' := by
      rw [process_loop_loop2main] at hslot
      split at hslot
      · cases hslot
      · rename_i hne
        exact ⟨hne, hslot⟩
    refine ⟨?_, ?_, ?_, ?_⟩
    · rw [hcount]
      intro i hi update hslot
      exact h.updates i hi update (hslots hslot).2
    · rw [hcount, hdatalogger]
      intro herror i hi howner
      obtain ⟨hbefore, hmatch⟩ := process_loop_owner s hmsg herror
      rcases h.claims hbefore i hi howner with howned | htaken
      · cases msg with
        | DATALOGGER_OWNERSHIP_TAKEN => cases howned.symm.trans hmatch.1
        | DATALOGGER_OWNERSHIP_RELEASED =>
          obtain rfl := Option.some.inj (howned.symm.trans hmatch.1)
          exact absurd howner (h.releases i hi hmsg)
        | DATALOGGER_DATA_ACQUIRED => exact .inl (hmatch.trans howned)
        | DATALOGGER_STATUS_UPDATE update => exact .inl (hmatch.trans howned)
      · by_cases hsame : i = id
        · subst hsame
          cases hmsg.symm.trans htaken
          exact .inl hmatch.2
        · right
          rw [process_loop_loop2main, if_neg hsame]
          exact htaken
    · rw [hcount]
      intro herror i hi msg' hslot hreport
      obtain ⟨hne, hsaid⟩ := hslots hslot
      obtain ⟨hbefore, hmatch⟩ := process_loop_owner s hmsg herror
      have howner := h.reports hbefore i hi msg' hsaid hreport
      cases msg with
      | DATALOGGER_OWNERSHIP_TAKEN =>
        cases howner.symm.trans hmatch.1
      | DATALOGGER_OWNERSHIP_RELEASED =>
        exact absurd (Option.some.inj (howner.symm.trans hmatch.1)) hne
      | DATALOGGER_DATA_ACQUIRED => exact hmatch.trans howner
      | DATALOGGER_STATUS_UPDATE update => exact hmatch.trans howner
    · rw [hcount, hdatalogger]
      intro i hi hslot
      exact h.releases i hi (hslots hslot).2

theorem process_datalogging_logic (h : Reporting s) :
    Reporting (MainHandler.process_datalogging_logic s) := by
  have hcount := (process_datalogging_logic_frame s).loop_count
  obtain ⟨howner, herror⟩ := process_datalogging_logic_owner s
  have hslots : (MainHandler.process_datalogging_logic s).loop2main = s.loop2main :=
    funext (process_datalogging_logic_loop2main s)
  refine ⟨?_, ?_, ?_, ?_⟩
  · rw [hcount, hslots]
    exact h.updates
  · rw [hcount, hslots, howner, herror, process_datalogging_logic_datalogger]
    exact h.claims
  · rw [hcount, hslots, howner, herror]
    exact h.reports
  · rw [hcount, hslots, process_datalogging_logic_datalogger]
    exact h.releases

theorem serve_request (h : Reporting s) (stack : Stack) :
    Reporting (MainHandler.serve_request s stack) := by
  obtain ⟨howner, herror, hdatalogger, _⟩ := serve_request_ownership s stack
  refine ⟨?_, ?_, ?_, ?_⟩
  · rw [serve_request_loop_count, serve_request_loop2main]
    exact h.updates
  · rw [serve_request_loop_count, serve_request_loop2main, howner, herror, hdatalogger]
    exact h.claims
  · rw [serve_request_loop_count, serve_request_loop2main, howner, herror]
    exact h.reports
  · rw [serve_request_loop_count, serve_request_loop2main, hdatalogger]
    exact h.releases

theorem process_common (h : Reporting s) {id : LoopId} (hid : id < s.loop_count)
    (timestep_100ns : timediff_t) :
    Reporting (LoopHandler.process_common s id timestep_100ns) := by
  have hcount := process_common_loop_count s id timestep_100ns
  have howner := process_common_owner s id timestep_100ns
  have hdatalogging := process_common_datalogging s id timestep_100ns
  have hsaid := process_common_loop2main s id timestep_100ns
  have hother {i : LoopId} (hne : i ≠ id) := process_common_loop2main_of_ne s id timestep_100ns hne
  have hbusy (hslot : s.loop2main id ≠ none) : received s id = none :=
    received_eq_none.mpr (.inr hslot)
  refine ⟨?_, ?_, ?_, ?_⟩
  · rw [hcount]
    intro i hi update hslot
    by_cases hne : i = id
    · subst hne
      rcases process_common_update hslot with hbefore | ⟨_, rfl⟩
      · exact h.updates i hi update hbefore
      · exact status_update_coherent _
    · rw [hother hne] at hslot
      exact h.updates i hi update hslot
  · rw [hcount, hdatalogging, howner]
    intro herror i hi hruns
    rcases owner_after_eq_some hruns with ⟨htake, rfl⟩ | ⟨_, hbefore, _⟩
    · right
      have hroom := (received_eq_some htake).1
      rw [htake, hroom] at hsaid
      rcases hsaid with htaken | ⟨_, habsurd, _⟩
      · exact htaken
      · cases habsurd
    · rcases h.claims herror i hi hbefore with howned | htaken
      · exact .inl howned
      · right
        by_cases hne : i = id
        · subst hne
          rw [htaken, Option.some_or] at hsaid
          rcases hsaid with hkept | ⟨_, habsurd, _⟩
          · exact hkept
          · cases habsurd
        · rw [hother hne]
          exact htaken
  · rw [hcount, hdatalogging]
    intro herror i hi msg hslot hreport
    by_cases hne : i = id
    · subst hne
      rcases hsaid with hkept | ⟨hruns, hempty, _⟩
      · rw [hkept] at hslot
        rcases Option.or_eq_some_iff.mp hslot with hbefore | ⟨_, hanswer⟩
        · exact h.reports herror i hi msg hbefore hreport
        · cases hreport.symm.trans (answer_to_not_report hanswer)
      · obtain ⟨hroom, hanswer⟩ := Option.or_eq_none_iff.mp hempty
        rcases owner_after_eq_some hruns with ⟨htake, _⟩ | ⟨_, hbefore, _⟩
        · rw [htake] at hanswer
          cases hanswer
        · rcases h.claims herror i hi hbefore with howned | htaken
          · exact howned
          · cases htaken.symm.trans hroom
    · rw [hother hne] at hslot
      exact h.reports herror i hi msg hslot hreport
  · rw [hcount, howner]
    intro i hi hslot hruns
    by_cases hne : i = id
    · subst hne
      rcases hsaid with hkept | ⟨_, _, msg, hreport, hother⟩
      · rw [hkept] at hslot
        rcases Option.or_eq_some_iff.mp hslot with hbefore | ⟨_, hanswer⟩
        · rw [hbusy (by rw [hbefore]; simp)] at hruns
          exact h.releases i hi hbefore hruns
        · rcases owner_after_eq_some hruns with ⟨htake, _⟩ | ⟨htake, _, hrelease⟩
          · rw [htake] at hanswer
            cases hanswer
          · unfold answer_to at hanswer
            split at hanswer
            · rename_i hmsg
              exact htake hmsg
            · rename_i hmsg
              exact hrelease hmsg rfl
            · cases hanswer
      · cases hother.symm.trans hslot
        cases hreport
    · rw [hother hne] at hslot
      rcases owner_after_eq_some hruns with ⟨_, hsame⟩ | ⟨_, hbefore, _⟩
      · exact hne hsame
      · exact h.releases i hi hslot hbefore

theorem invariant : System.Inductive Reporting fun _ => True where
  frame _ _ hframe h := h.frame hframe
  message _ _ hid h := h.process_loop hid
  logic _ _ h := h.process_datalogging_logic
  request _ stack _ _ h := h.serve_request stack
  loop _ _ timestep_100ns hid h := h.process_common hid timestep_100ns

end Reporting

end scrutiny
