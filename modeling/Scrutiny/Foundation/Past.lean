import Scrutiny.Foundation.Run

namespace foundation

variable {S E : Type}

instance Always.decidable (step : S → E → S) (Q : S → Prop) [∀ s, Decidable (Q s)] :
    (s : S) → (events : List E) → Decidable (Always step Q s events)
  | s, [] => inferInstanceAs (Decidable (Q s))
  | s, e :: events =>
    have := Always.decidable step Q (step s e) events
    inferInstanceAs (Decidable (Q s ∧ Always step Q (step s e) events))

theorem Always.snoc {step : S → E → S} {Q : S → Prop} {s : S} {events : List E} {e : E}
    (h : Always step Q s events) (hlast : Q (step (run step s events) e)) :
    Always step Q s (events ++ [e]) := by
  induction events generalizing s with
  | nil => exact ⟨h, hlast⟩
  | cons e' events ih => exact ⟨h.1, ih h.2 hlast⟩

theorem Always.of_append {step : S → E → S} {Q : S → Prop} {s : S} {before after : List E}
    (h : Always step Q s (before ++ after)) : Always step Q s before := by
  induction before generalizing s with
  | nil => exact h.head
  | cons e before ih => exact ⟨h.1, ih h.2⟩

/-- A property that every event preserves. -/
theorem always_of_step {step : S → E → S} {Inv : S → Prop}
    (hstep : ∀ s e, Inv s → Inv (step s e)) {s : S} (hinit : Inv s) (events : List E) :
    Always step Inv s events := by
  induction events generalizing s with
  | nil => exact hinit
  | cons e events ih => exact ⟨hinit, ih (hstep s e hinit)⟩

/-- A property of the events that holds under an invariant, which the events that meet `P`
preserve. -/
theorem Along.of_invariant {step : S → E → S} {P Q : S → E → Prop} {Inv : S → Prop}
    (hstep : ∀ s e, Inv s → P s e → Inv (step s e)) (hgives : ∀ s e, Inv s → P s e → Q s e)
    {s : S} (hinit : Inv s) {events : List E} (hadm : Along step P s events) :
    Along step Q s events := by
  induction events generalizing s with
  | nil => trivial
  | cons e events ih =>
    exact ⟨hgives s e hinit hadm.1, ih (hstep s e hinit hadm.1) hadm.2⟩

/-- What holds along a run holds of each of its events, in the state the ones before lead to. -/
theorem along_iff_split {step : S → E → S} {P : S → E → Prop} {s : S} {events : List E} :
    Along step P s events ↔
      ∀ before e after, events = before ++ e :: after → P (run step s before) e := by
  constructor
  · rintro halong before e after rfl
    exact (Along.append.mp halong).2.1
  · intro hsplit
    induction events generalizing s with
    | nil => trivial
    | cons e events ih =>
      refine ⟨hsplit [] e events rfl, ih fun before e' after hevents => ?_⟩
      exact hsplit (e :: before) e' after (by rw [hevents]; rfl)

/-- Some event of the run meets `P`, together with the events that came after it. -/
def Once (step : S → E → S) (P : S → E → List E → Prop) : S → List E → Prop
  | _, [] => False
  | s, e :: events => P s e events ∨ Once step P (step s e) events

instance Once.decidable (step : S → E → S) (P : S → E → List E → Prop)
    [∀ s e events, Decidable (P s e events)] :
    (s : S) → (events : List E) → Decidable (Once step P s events)
  | _, [] => inferInstanceAs (Decidable False)
  | s, e :: events =>
    have := Once.decidable step P (step s e) events
    inferInstanceAs (Decidable (P s e events ∨ Once step P (step s e) events))

namespace Once

variable {step : S → E → S} {P P' : S → E → List E → Prop} {s : S} {events : List E} {e : E}

/-- The event that just happened. -/
theorem last (hlast : P (run step s events) e []) : Once step P s (events ++ [e]) := by
  induction events generalizing s with
  | nil => exact .inl hlast
  | cons e' events ih => exact .inr (ih hlast)

/-- What happened is still so after one more event. -/
theorem snoc (h : Once step P s events)
    (hext : ∀ s' e' rest, run step (step s' e') rest = run step s events → P s' e' rest →
      P' s' e' (rest ++ [e])) : Once step P' s (events ++ [e]) := by
  induction events generalizing s with
  | nil => exact h.elim
  | cons e' events ih =>
    rcases h with hhere | hlater
    · exact .inl (hext s e' events rfl hhere)
    · exact .inr (ih hlater hext)

theorem mono (himp : ∀ s' e' rest, run step (step s' e') rest = run step s events →
    P s' e' rest → P' s' e' rest) (h : Once step P s events) : Once step P' s events := by
  induction events generalizing s with
  | nil => exact h.elim
  | cons e' events ih =>
    rcases h with hhere | hlater
    · exact .inl (himp s e' events rfl hhere)
    · exact .inr (ih himp hlater)

/-- What follows whenever it happened. -/
theorem imp {C : Prop} (himp : ∀ s' e' rest, run step (step s' e') rest = run step s events →
    P s' e' rest → C) (h : Once step P s events) : C := by
  induction events generalizing s with
  | nil => exact h.elim
  | cons e' events ih =>
    rcases h with hhere | hlater
    · exact himp s e' events rfl hhere
    · exact ih himp hlater

/-- What happened did so in a state that meets the invariant. -/
theorem of_invariant {Inv : S → Prop} (hstep : ∀ s e, Inv s → Inv (step s e)) (hinit : Inv s)
    (h : Once step P s events) : Once step (fun s' e' rest => Inv s' ∧ P s' e' rest) s events := by
  induction events generalizing s with
  | nil => exact h.elim
  | cons e' events ih =>
    rcases h with hhere | hlater
    · exact .inl ⟨hinit, hhere⟩
    · exact .inr (ih (hstep s e' hinit) hlater)

end Once

/-- Either no event of the run meets `P`, or there is a last one that does. -/
theorem never_or_last (step : S → E → S) (P : S → E → Prop) (s : S) (events : List E) :
    Along step (fun s e => ¬P s e) s events ∨
      Once step (fun s e rest => P s e ∧ Along step (fun s e => ¬P s e) (step s e) rest)
        s events := by
  induction events generalizing s with
  | nil => exact .inl trivial
  | cons e events ih =>
    rcases ih (step s e) with hnever | hlast
    · by_cases he : P s e
      · exact .inr (.inl ⟨he, hnever⟩)
      · exact .inl ⟨he, hnever⟩
    · exact .inr (.inr hlast)

/-- An invariant of the states and of the events that led to them. -/
theorem run_invariant_past {step : S → E → S} {P : S → E → Prop} {s : S}
    {Inv : List E → S → Prop} (hinit : Inv [] s)
    (hstep : ∀ events e, Inv events (run step s events) → P (run step s events) e →
      Inv (events ++ [e]) (step (run step s events) e))
    {events : List E} (hadm : Along step P s events) : Inv events (run step s events) := by
  induction events using List.reverseRecOn with
  | nil => exact hinit
  | append_singleton events e ih =>
    obtain ⟨hbefore, hlast⟩ := Along.append.mp hadm
    rw [run_append]
    exact hstep events e (ih hbefore) hlast.1

end foundation
