import Scrutiny.Ownership.Exclusive
import Scrutiny.Ownership.Step

open foundation

namespace scrutiny

open datalogging protocol

section

variable [Platform]

open MainHandler LoopHandler

/-- What holds of the messages in every run, whatever the requests are. -/
structure Orderly (s : System) : Prop where
  slots : s.datalogging.error = .NoError → ∀ i < s.loop_count, s.datalogging.owner ≠ some i →
    s.main2loop i = none ∨ s.main2loop i = some .TAKE_DATALOGGER_OWNERSHIP
  released : ∀ i < s.loop_count, s.loop2main i = some .DATALOGGER_OWNERSHIP_RELEASED →
    s.main2loop i = none
  new_owner_lt : ∀ c, s.datalogging.new_owner = some c → c < s.loop_count

namespace Orderly

variable {s : System}

theorem frame (h : Orderly s) {s' : System} (hframe : DataloggingFrame s s') : Orderly s' := by
  refine ⟨?_, ?_, ?_⟩
  · rw [hframe.datalogging, hframe.loop_count, hframe.main2loop]
    exact h.slots
  · rw [hframe.loop_count, hframe.main2loop, hframe.loop2main]
    exact h.released
  · rw [hframe.datalogging, hframe.loop_count]
    exact h.new_owner_lt

/-- A release that raises no error comes from the owner, whose slot is empty. -/
theorem process_loop (h : Orderly s) {id : LoopId} (hid : id < s.loop_count) :
    Orderly (MainHandler.process_loop s id) := by
  have hcount := (process_loop_frame s id).loop_count
  refine ⟨?_, ?_, ?_⟩
  · rw [hcount]
    intro herror i hi howner
    rw [process_loop_main2loop]
    cases hmsg : s.loop2main id with
    | none =>
      rw [process_loop_of_empty hmsg] at herror howner
      exact h.slots herror i hi howner
    | some msg =>
      rw [process_loop_of_message hmsg, System.set_datalogging_datalogging] at herror howner
      cases msg with
      | DATALOGGER_OWNERSHIP_TAKEN =>
        have hfree : s.datalogging.owner = none := by
          by_contra howned
          simp [process_datalogging_loop_msg, howned] at herror
        have herror : s.datalogging.error = .NoError := by
          simpa [process_datalogging_loop_msg, hfree] using herror
        exact h.slots herror i hi (by simp [hfree])
      | DATALOGGER_OWNERSHIP_RELEASED =>
        have howned : s.datalogging.owner = some id := by
          by_contra hother
          simp [process_datalogging_loop_msg, Ne.symm hother] at herror
        have herror : s.datalogging.error = .NoError := by
          simpa [process_datalogging_loop_msg, howned] using herror
        by_cases hne : i = id
        · exact .inl (hne ▸ h.released id hid hmsg)
        · exact h.slots herror i hi fun hsame => hne (Option.some.inj (hsame.symm.trans howned))
      | DATALOGGER_DATA_ACQUIRED => exact h.slots herror i hi howner
      | DATALOGGER_STATUS_UPDATE update => exact h.slots herror i hi howner
  · rw [hcount]
    intro i hi hmsg
    rw [process_loop_loop2main] at hmsg
    rw [process_loop_main2loop]
    split at hmsg
    · cases hmsg
    · exact h.released i hi hmsg
  · rw [hcount, (process_loop_keeps s id).1]
    exact h.new_owner_lt

theorem process_datalogging_logic (h : Orderly s)
    (hsilent : ∀ i < s.loop_count, s.loop2main i = none) :
    Orderly (MainHandler.process_datalogging_logic s) := by
  have hcount := (process_datalogging_logic_frame s).loop_count
  obtain ⟨howner, herror⟩ := process_datalogging_logic_owner s
  refine ⟨?_, ?_, ?_⟩
  · rw [hcount, howner, herror]
    intro hnone i hi hother
    cases hfree : s.datalogging.owner with
    | none =>
      rw [process_datalogging_logic_of_free hnone hfree, (offer_ownership_spec s).2]
      split
      · exact .inr rfl
      · exact h.slots hnone i hi hother
    | some a =>
      rw [process_datalogging_logic_of_owner hnone hfree, send_commands_main2loop_of_ne]
      · exact h.slots hnone i hi hother
      · rintro rfl
        exact hother hfree
  · rw [hcount]
    intro i hi hmsg
    rw [process_datalogging_logic_loop2main, hsilent i hi] at hmsg
    cases hmsg
  · rw [hcount]
    intro c hc
    exact h.new_owner_lt c (process_datalogging_logic_new_owner hc)

theorem serve_request (h : Orderly s) (stack : Stack) :
    Orderly (MainHandler.serve_request s stack) := by
  obtain ⟨howner, herror, _, hnew_owner⟩ := serve_request_ownership s stack
  refine ⟨?_, ?_, ?_⟩
  · rw [howner, herror, serve_request_loop_count, serve_request_main2loop]
    exact h.slots
  · rw [serve_request_loop_count, serve_request_main2loop, serve_request_loop2main]
    exact h.released
  · rw [hnew_owner, serve_request_loop_count]
    intro c hc
    rcases Option.or_eq_some_iff.mp hc with haccepted | ⟨_, hwaiting⟩
    · exact (accepted_configuration_eq_some haccepted).2
    · exact h.new_owner_lt c hwaiting

theorem process_common (h : Orderly s) (id : LoopId) (timestep_100ns : timediff_t) :
    Orderly (LoopHandler.process_common s id timestep_100ns) := by
  have hcount := process_common_loop_count s id timestep_100ns
  have hkept := process_common_datalogging s id timestep_100ns
  refine ⟨?_, ?_, ?_⟩
  · rw [hcount, hkept]
    intro herror i hi howner
    rw [process_common_main2loop]
    split
    · exact .inl rfl
    · exact h.slots herror i hi howner
  · rw [hcount]
    intro i hi hmsg
    rw [process_common_main2loop]
    split
    · rfl
    · rename_i hkept
      refine h.released i hi ?_
      by_cases hne : i = id
      · subst hne
        have hnone : received s i = none := by
          by_contra hsome
          exact hkept ⟨rfl, hsome⟩
        have hsaid := process_common_loop2main s i timestep_100ns
        simp only [hnone, answer_to, Option.or_none] at hsaid
        rcases hsaid with hsame | ⟨_, _, msg, hreport, hother⟩
        · exact hsame.symm.trans hmsg
        · cases hother.symm.trans hmsg
          cases hreport
      · rw [process_common_loop2main_of_ne s id timestep_100ns hne] at hmsg
        exact hmsg
  · rw [hcount, hkept]
    exact h.new_owner_lt

theorem invariant : System.Inductive Orderly fun _ => True where
  frame _ _ hframe h := h.frame hframe
  message _ _ hid h := h.process_loop hid
  logic _ hsilent h := h.process_datalogging_logic hsilent
  request _ stack _ _ h := h.serve_request stack
  loop _ id timestep_100ns _ h := h.process_common id timestep_100ns

end Orderly

end

end scrutiny
