import Mathlib

namespace foundation

variable {S R : Type}

/-- The loop that starts in a state ends with a result: each turn either leaves it or
passes to the state of the next turn. -/
def Ends (turn : S → R ⊕ S) (s : S) (r : R) : Prop := r ∈ (PFun.lift turn).fix s

namespace Ends

variable {turn : S → R ⊕ S} {s s' : S} {r : R}

theorem leave (h : turn s = .inl r) : Ends turn s r :=
  PFun.fix_stop (Part.mem_some_iff.mpr h.symm)

theorem again (h : turn s = .inr s') (hrest : Ends turn s' r) : Ends turn s r := by
  have hstep : Sum.inr s' ∈ PFun.lift turn s := Part.mem_some_iff.mpr h.symm
  rw [Ends, PFun.fix_fwd_eq hstep]
  exact hrest

/-- A loop written with a number of turns computes the result of the loop, when a measure
of the state that is below this number decreases at each turn. -/
theorem of_bounded (bounded : Nat → S → R)
    (hbounded : ∀ n s, bounded (n + 1) s = (turn s).elim id (bounded n)) {P : S → Prop}
    {m : S → Nat} (hturn : ∀ {s s'}, P s → turn s = .inr s' → P s' ∧ m s' < m s) {n : Nat}
    (hs : P s) (hn : m s < n) : Ends turn s (bounded n s) := by
  induction n generalizing s with
  | zero => exact absurd hn (Nat.not_lt_zero _)
  | succ n ih =>
    rw [hbounded]
    cases hstep : turn s with
    | inl r => exact leave hstep
    | inr s' =>
      obtain ⟨hs', hless⟩ := hturn hs hstep
      exact again hstep (ih hs' (by omega))

end Ends

end foundation
