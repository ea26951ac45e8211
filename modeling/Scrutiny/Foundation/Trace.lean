import Scrutiny.Foundation.Run

namespace foundation

section

variable {S E L : Type}

/-- What the events of a run emit, in their order. -/
def trace (step : S → E → S) (emit : S → E → List L) : S → List E → List L
  | _, [] => []
  | s, e :: events => emit s e ++ trace step emit (step s e) events

/-- What comes out of a run is what goes in, in the same order, when each event keeps the
balance with what is on the way. -/
theorem trace_balance {step : S → E → S} {pending : S → List L} {sent received : S → E → List L}
    {Inv : S → Prop} (hstep : ∀ s e, Inv s → Inv (step s e))
    (hbalance : ∀ s e, Inv s → pending s ++ sent s e = received s e ++ pending (step s e))
    {s : S} (h : Inv s) (events : List E) :
    pending s ++ trace step sent s events =
      trace step received s events ++ pending (run step s events) := by
  induction events generalizing s with
  | nil => exact List.append_nil _
  | cons e events ih =>
    change pending s ++ (sent s e ++ trace step sent (step s e) events) =
      received s e ++ trace step received (step s e) events ++ _
    rw [← List.append_assoc, hbalance s e h, List.append_assoc, ih (hstep s e h),
      ← List.append_assoc]
    rfl

end

section

variable {L : Type} {sent first second : List L} {slot : Option L}

/-- A slot of one place once messages were put in it: each writes over the one that is there. -/
def posted (sent : List L) (slot : Option L) : Option L := sent.getLast?.or slot

/-- Nothing is put in the slot, or one message while it is empty. -/
def HasRoom (sent : List L) (slot : Option L) : Prop :=
  sent = [] ∨ slot = none ∧ ∃ msg, sent = [msg]

theorem posted_append (first second : List L) (slot : Option L) :
    posted (first ++ second) slot = posted second (posted first slot) := by
  rw [posted, posted, posted, List.getLast?_append, Option.or_assoc]

theorem HasRoom.toList_posted (h : HasRoom sent slot) :
    (posted sent slot).toList = slot.toList ++ sent := by
  rcases h with rfl | ⟨rfl, msg, rfl⟩
  · exact (List.append_nil _).symm
  · rfl

theorem HasRoom.append (h : HasRoom first slot) (h' : HasRoom second (posted first slot)) :
    HasRoom (first ++ second) slot := by
  rcases h with rfl | ⟨rfl, msg, rfl⟩
  · exact h'
  · rcases h' with rfl | ⟨hbusy, -⟩
    · exact .inr ⟨rfl, msg, rfl⟩
    · cases hbusy

end

section

variable {A : Type}

/-- Each `n`-th of some things, from the `n`-th on. -/
def every (n : Nat) (xs : List A) : List A :=
  ((xs.zipIdx 1).filter fun x => x.2 % n = 0).map Prod.fst

@[simp] theorem every_nil (n : Nat) : every n ([] : List A) = [] := rfl

theorem every_append_singleton (n : Nat) (xs : List A) (x : A) :
    every n (xs ++ [x]) = every n xs ++ if (xs.length + 1) % n = 0 then [x] else [] := by
  have hlast : [x].zipIdx (1 + xs.length) = [(x, xs.length + 1)] := by
    rw [Nat.add_comm]
    rfl
  rw [every, List.zipIdx_append, List.filter_append, List.map_append, hlast, every]
  congr 1
  by_cases hturn : (xs.length + 1) % n = 0
  · rw [if_pos hturn, List.filter_cons_of_pos (by simpa using hturn)]
    rfl
  · rw [if_neg hturn, List.filter_cons_of_neg (by simpa using hturn)]
    rfl

end

end foundation
