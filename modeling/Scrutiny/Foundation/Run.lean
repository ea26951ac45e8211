import Mathlib

namespace foundation

variable {S E : Type}

/-- The state after a finite sequence of events of a deterministic machine. -/
def run (step : S → E → S) (s : S) (events : List E) : S := events.foldl step s

@[simp] theorem run_nil (step : S → E → S) (s : S) : run step s [] = s := rfl

@[simp] theorem run_cons (step : S → E → S) (s : S) (e : E) (events : List E) :
    run step s (e :: events) = run step (step s e) events := rfl

theorem run_append (step : S → E → S) (s : S) (before after : List E) :
    run step s (before ++ after) = run step (run step s before) after :=
  List.foldl_append

/-- Every event of the run meets `P` in the state in which it is taken. -/
def Along (step : S → E → S) (P : S → E → Prop) : S → List E → Prop
  | _, [] => True
  | s, e :: events => P s e ∧ Along step P (step s e) events

instance Along.decidable (step : S → E → S) (P : S → E → Prop) [∀ s e, Decidable (P s e)] :
    (s : S) → (events : List E) → Decidable (Along step P s events)
  | _, [] => inferInstanceAs (Decidable True)
  | s, e :: events =>
    have := Along.decidable step P (step s e) events
    inferInstanceAs (Decidable (P s e ∧ Along step P (step s e) events))

/-- Every state the run passes through meets `Q`, both ends included. -/
def Always (step : S → E → S) (Q : S → Prop) : S → List E → Prop
  | s, [] => Q s
  | s, e :: events => Q s ∧ Always step Q (step s e) events

theorem Always.head {step : S → E → S} {Q : S → Prop} {s : S} {events : List E}
    (h : Always step Q s events) : Q s := by
  cases events with
  | nil => exact h
  | cons e events => exact h.1

theorem Always.last {step : S → E → S} {Q : S → Prop} {s : S} {events : List E}
    (h : Always step Q s events) : Q (run step s events) := by
  induction events generalizing s with
  | nil => exact h
  | cons e events ih => exact ih h.2

theorem Along.append {step : S → E → S} {P : S → E → Prop} {s : S} {before after : List E} :
    Along step P s (before ++ after) ↔
      Along step P s before ∧ Along step P (run step s before) after := by
  induction before generalizing s with
  | nil => simp [Along]
  | cons e before ih => simp [Along, ih, and_assoc]

theorem Along.mono {step : S → E → S} {P P' : S → E → Prop} (himp : ∀ s e, P s e → P' s e)
    {s : S} {events : List E} (h : Along step P s events) : Along step P' s events := by
  induction events generalizing s with
  | nil => trivial
  | cons e events ih => exact ⟨himp s e h.1, ih h.2⟩

/-- A property of the initial state that every admissible event preserves holds
at the end of every admissible run. -/
theorem run_invariant {step : S → E → S} {P : S → E → Prop} {Inv : S → Prop}
    (hstep : ∀ s e, Inv s → P s e → Inv (step s e)) {s : S} (hinit : Inv s)
    {events : List E} (hadm : Along step P s events) : Inv (run step s events) := by
  induction events generalizing s with
  | nil => exact hinit
  | cons e events ih => exact ih (hstep s e hinit hadm.1) hadm.2

theorem always_invariant {step : S → E → S} {P : S → E → Prop} {Inv : S → Prop}
    (hstep : ∀ s e, Inv s → P s e → Inv (step s e)) {s : S} (hinit : Inv s)
    {events : List E} (hadm : Along step P s events) : Always step Inv s events := by
  induction events generalizing s with
  | nil => exact hinit
  | cons e events ih => exact ⟨hinit, ih (hstep s e hinit hadm.1) hadm.2⟩

theorem Always.mono {step : S → E → S} {Q Q' : S → Prop} (himp : ∀ s, Q s → Q' s)
    {s : S} {events : List E} (h : Always step Q s events) : Always step Q' s events := by
  induction events generalizing s with
  | nil => exact himp s h
  | cons e events ih => exact ⟨himp s h.1, ih h.2⟩

/-- The guard `P` is exact for the state property `Q`: an invariant that implies
`Q` survives the events that meet the guard, and an event that does not meet it
ends `Q` at once. -/
theorem always_iff_along {step : S → E → S} {P : S → E → Prop} {Inv Q : S → Prop}
    (hstep : ∀ s e, Inv s → P s e → Inv (step s e)) (hinv : ∀ s, Inv s → Q s)
    (hbreak : ∀ s e, Inv s → ¬ P s e → ¬ Q (step s e)) {s : S} (hinit : Inv s)
    {events : List E} : Always step Q s events ↔ Along step P s events := by
  induction events generalizing s with
  | nil => exact ⟨fun _ => trivial, fun _ => hinv s hinit⟩
  | cons e events ih =>
    constructor
    · rintro ⟨_, hrest⟩
      have hguard : P s e := by
        by_contra hnot
        exact hbreak s e hinit hnot hrest.head
      exact ⟨hguard, (ih (hstep s e hinit hguard)).mp hrest⟩
    · rintro ⟨hguard, hrest⟩
      exact ⟨hinv s hinit, (ih (hstep s e hinit hguard)).mpr hrest⟩

/-- The same for a property of the events: under the invariant, guard and
property agree on each single event. -/
theorem along_iff_along {step : S → E → S} {P Q : S → E → Prop} {Inv : S → Prop}
    (hstep : ∀ s e, Inv s → P s e → Inv (step s e))
    (hexact : ∀ s e, Inv s → (Q s e ↔ P s e)) {s : S} (hinit : Inv s)
    {events : List E} : Along step Q s events ↔ Along step P s events := by
  induction events generalizing s with
  | nil => exact Iff.rfl
  | cons e events ih =>
    constructor
    · rintro ⟨hq, hrest⟩
      have hguard := (hexact s e hinit).mp hq
      exact ⟨hguard, (ih (hstep s e hinit hguard)).mp hrest⟩
    · rintro ⟨hguard, hrest⟩
      exact ⟨(hexact s e hinit).mpr hguard, (ih (hstep s e hinit hguard)).mpr hrest⟩

end foundation
