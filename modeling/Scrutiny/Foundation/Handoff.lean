import Scrutiny.Foundation.Run

namespace foundation

section

variable {S E A : Type}

/-- Every admissible event of the machine is a path of the relation `Step` on the abstract
states that `R` gives. -/
def Simulates (step : S → E → S) (P : S → E → Prop) (Step : A → A → Prop) (R : A → S → Prop) :
    Prop :=
  ∀ a s e, R a s → P s e → ∃ a', Relation.ReflTransGen Step a a' ∧ R a' (step s e)

theorem Simulates.preserves {step : S → E → S} {P : S → E → Prop} {Step : A → A → Prop}
    {R : A → S → Prop} (hsim : Simulates step P Step R) {s : S} {e : E} (hinv : ∃ a, R a s)
    (hadm : P s e) : ∃ a, R a (step s e) := by
  obtain ⟨a, hrel⟩ := hinv
  obtain ⟨a', _, hrel'⟩ := hsim a s e hrel hadm
  exact ⟨a', hrel'⟩

end

/-- Where a token is that a coordinator lends to workers by messages: each offer and each
release takes effect for one side before the other knows of it. -/
inductive Handoff (W : Type) where
  | free
  | offered (worker : W)
  | claimed (worker : W)
  | owned (worker : W)
  | released (worker : W)

namespace Handoff

variable {W : Type}

/-- The worker that the token is with, or on its way to or from. -/
def worker : Handoff W → Option W
  | free => none
  | offered worker | claimed worker | owned worker | released worker => some worker

/-- The worker that uses the token. -/
def holder : Handoff W → Option W
  | claimed worker | owned worker => some worker
  | free | offered _ | released _ => none

/-- The worker that the coordinator takes for the holder. -/
def known : Handoff W → Option W
  | owned worker | released worker => some worker
  | free | offered _ | claimed _ => none

/-- The worker with an offer that it has not seen yet. -/
def offer : Handoff W → Option W
  | offered worker => some worker
  | free | claimed _ | owned _ | released _ => none

inductive Step : Handoff W → Handoff W → Prop where
  | offer (worker : W) : Step free (offered worker)
  | claim (worker : W) : Step (offered worker) (claimed worker)
  | note_claim (worker : W) : Step (claimed worker) (owned worker)
  | release (worker : W) : Step (owned worker) (released worker)
  | note_release (worker : W) : Step (released worker) free

/-- The phase once the coordinator knows what its worker did. -/
def noted : Handoff W → Handoff W
  | claimed worker => owned worker
  | released _ => free
  | phase => phase

theorem noted_reachable (phase : Handoff W) : Relation.ReflTransGen Step phase phase.noted := by
  cases phase with
  | free | offered _ | owned _ => exact .refl
  | claimed worker => exact .single (.note_claim worker)
  | released worker => exact .single (.note_release worker)

theorem worker_noted (phase : Handoff W) :
    phase.noted.worker = none ∨ phase.noted.worker = phase.worker := by
  cases phase with
  | free | offered _ | claimed _ | owned _ => exact .inr rfl
  | released _ => exact .inl rfl

theorem holder_noted (phase : Handoff W) : phase.noted.holder = phase.holder := by
  cases phase <;> rfl

theorem offer_noted (phase : Handoff W) : phase.noted.offer = phase.offer := by
  cases phase <;> rfl

end Handoff

end foundation
