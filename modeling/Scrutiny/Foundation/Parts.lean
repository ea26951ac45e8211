import Scrutiny.Foundation.Past

namespace foundation

/-- A machine that executes its calls part by part, with interrupts in between. -/
structure Interruptible (S C P I : Type) where
  start : S → C → S × Option P
  resume : S → P → S × Option P
  interrupt : S → I → S

/-- What happens next: a call, the next part of the call under way, or an interrupt. -/
inductive Act (C I : Type) where
  | call (c : C)
  | resume
  | interrupt (i : I)

/-- A state, with the part that is next when a call is under way. -/
structure Progress (S P : Type) where
  state : S
  next : Option P

namespace Interruptible

variable {S C P I : Type} (m : Interruptible S C P I)

/-- No call is made while another one is under way. -/
def step (p : Progress S P) : Act C I → Progress S P
  | .call c =>
    match p.next with
    | none => ⟨(m.start p.state c).1, (m.start p.state c).2⟩
    | some _ => p
  | .resume =>
    match p.next with
    | none => p
    | some part => ⟨(m.resume p.state part).1, (m.resume p.state part).2⟩
  | .interrupt i => { p with state := m.interrupt p.state i }

/-- The state that the parts that are left lead to when nothing interrupts them. -/
inductive Completes : S → Option P → S → Prop where
  | done (s : S) : Completes s none s
  | part {s : S} {part : P} {s' : S}
    (hrest : Completes (m.resume s part).1 (m.resume s part).2 s') : Completes s (some part) s'

variable {m}

theorem Completes.run {s : S} {next : Option P} {s' : S} (h : m.Completes s next s') :
    ∃ count, foundation.run m.step ⟨s, next⟩ (List.replicate count .resume) = ⟨s', none⟩ := by
  induction h with
  | done s => exact ⟨0, rfl⟩
  | part hrest ih =>
    obtain ⟨count, hrun⟩ := ih
    exact ⟨count + 1, hrun⟩

theorem run_call {s : S} {c : C} {s' : S}
    (h : m.Completes (m.start s c).1 (m.start s c).2 s') :
    ∃ acts, foundation.run m.step ⟨s, none⟩ acts = ⟨s', none⟩ := by
  obtain ⟨count, hrun⟩ := h.run
  exact ⟨.call c :: List.replicate count .resume, hrun⟩

/-- A machine whose events are calls that nothing interrupts, or interrupts, is contained
in the one that is interrupted. -/
theorem run_uninterrupted {E : Type} {atomic : S → E → S}
    (hevent : ∀ s e, (∃ c, m.Completes (m.start s c).1 (m.start s c).2 (atomic s e)) ∨
      ∃ i, m.interrupt s i = atomic s e) (s : S) (events : List E) :
    ∃ acts, foundation.run m.step ⟨s, none⟩ acts = ⟨foundation.run atomic s events, none⟩ := by
  induction events generalizing s with
  | nil => exact ⟨[], rfl⟩
  | cons e events ih =>
    have hfirst : ∃ acts, foundation.run m.step ⟨s, none⟩ acts = ⟨atomic s e, none⟩ := by
      rcases hevent s e with ⟨c, hcompletes⟩ | ⟨i, hinterrupt⟩
      · exact run_call hcompletes
      · exact ⟨[.interrupt i], congrArg (Progress.mk · none) hinterrupt⟩
    obtain ⟨first, hrun⟩ := hfirst
    obtain ⟨rest, hrest⟩ := ih (atomic s e)
    refine ⟨first ++ rest, ?_⟩
    rw [run_append, hrun, hrest]
    rfl

/-- The condition on a part, in the state that it is executed in. -/
def OnPart (Guard : S → P → Prop) (p : Progress S P) : Act C I → Prop
  | .resume =>
    match p.next with
    | none => True
    | some part => Guard p.state part
  | .call _ | .interrupt _ => True

instance OnPart.decidable {Guard : S → P → Prop} [∀ s part, Decidable (Guard s part)]
    (p : Progress S P) (act : Act C I) : Decidable (OnPart Guard p act) :=
  match act, p with
  | .resume, ⟨s, some part⟩ => inferInstanceAs (Decidable (Guard s part))
  | .resume, ⟨_, none⟩ => inferInstanceAs (Decidable True)
  | .call _, _ => inferInstanceAs (Decidable True)
  | .interrupt _, _ => inferInstanceAs (Decidable True)

/-- An invariant of the states and of the parts that are left. -/
structure Keeps (m : Interruptible S C P I) (Inv : S → Option P → Prop) (Guard : S → P → Prop) :
    Prop where
  start : ∀ s c, Inv s none → Inv (m.start s c).1 (m.start s c).2
  resume : ∀ s part, Guard s part → Inv s (some part) →
    Inv (m.resume s part).1 (m.resume s part).2
  interrupt : ∀ s next i, Inv s next → Inv (m.interrupt s i) next

theorem Keeps.step {Inv : S → Option P → Prop} {Guard : S → P → Prop} (hkeeps : m.Keeps Inv Guard)
    (p : Progress S P) (act : Act C I) (h : Inv p.state p.next) (hguard : OnPart Guard p act) :
    Inv (m.step p act).state (m.step p act).next := by
  obtain ⟨s, next⟩ := p
  cases act with
  | call c =>
    cases next with
    | none => exact hkeeps.start s c h
    | some part => exact h
  | resume =>
    cases next with
    | none => exact h
    | some part => exact hkeeps.resume s part hguard h
  | interrupt i => exact hkeeps.interrupt s next i h

end Interruptible

end foundation
