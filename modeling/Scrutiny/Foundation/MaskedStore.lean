import Mathlib

namespace foundation

/-- An assignment to one cell of an array of words that sets the bits of `mask` to
those of `source` and leaves the others. -/
structure MaskedStore (A : Type) (w : Nat) where
  addr : A
  source : BitVec w
  mask : BitVec w

namespace MaskedStore

variable {A : Type} [DecidableEq A] {w : Nat}

/-- The word stored over `old`. -/
def value (self : MaskedStore A w) (old : BitVec w) : BitVec w :=
  (old &&& ~~~self.mask) ||| (self.source &&& self.mask)

def apply (words : A → BitVec w) (self : MaskedStore A w) : A → BitVec w :=
  Function.update words self.addr (self.value (words self.addr))

def apply_all (words : A → BitVec w) (stores : List (MaskedStore A w)) : A → BitVec w :=
  stores.foldl apply words

theorem apply_all_append (words : A → BitVec w) (stores others : List (MaskedStore A w)) :
    apply_all words (stores ++ others) = apply_all (apply_all words stores) others :=
  List.foldl_append

omit [DecidableEq A] in
theorem getLsbD_value (self : MaskedStore A w) (old : BitVec w) (k : Nat) :
    (self.value old).getLsbD k =
      if self.mask.getLsbD k then self.source.getLsbD k else old.getLsbD k := by
  by_cases hk : k < w
  · simp only [value, BitVec.getLsbD_or, BitVec.getLsbD_and, BitVec.getLsbD_not, hk]
    cases self.mask.getLsbD k <;> simp
  · have hge : w ≤ k := Nat.le_of_not_lt hk
    simp [BitVec.getLsbD_of_ge _ _ hge]

omit [DecidableEq A] in
theorem value_of_mask_zero {self : MaskedStore A w} (hmask : self.mask = 0) (old : BitVec w) :
    self.value old = old := by
  simp [value, hmask]

theorem apply_of_mask_zero {self : MaskedStore A w} (hmask : self.mask = 0)
    (words : A → BitVec w) : apply words self = words := by
  rw [apply, value_of_mask_zero hmask, Function.update_eq_self]

theorem apply_all_of_masks_zero {stores : List (MaskedStore A w)}
    (hmasks : ∀ store ∈ stores, store.mask = 0) (words : A → BitVec w) :
    apply_all words stores = words := by
  induction stores generalizing words with
  | nil => rfl
  | cons store stores ih =>
    have hhead : apply words store = words := apply_of_mask_zero (hmasks store (by simp)) words
    have htail := ih (fun other hmem => hmasks other (List.mem_cons_of_mem _ hmem)) words
    simpa only [apply_all, List.foldl_cons, hhead] using htail

/-- The stores set bit `k` of the cell `a`. -/
def Sets (stores : List (MaskedStore A w)) (a : A) (k : Nat) : Prop :=
  ∃ store ∈ stores, store.addr = a ∧ store.mask.getLsbD k = true

theorem getLsbD_apply (words : A → BitVec w) (self : MaskedStore A w) (a : A) (k : Nat) :
    (apply words self a).getLsbD k =
      if self.addr = a ∧ self.mask.getLsbD k then self.source.getLsbD k
      else (words a).getLsbD k := by
  by_cases haddr : self.addr = a
  · subst haddr
    rw [apply, Function.update_self, getLsbD_value]
    simp
  · rw [apply, Function.update_of_ne (Ne.symm haddr)]
    simp [haddr]

theorem getLsbD_apply_all_of_not_sets {stores : List (MaskedStore A w)} {a : A} {k : Nat}
    (hsets : ¬ Sets stores a k) (words : A → BitVec w) :
    (apply_all words stores a).getLsbD k = (words a).getLsbD k := by
  induction stores generalizing words with
  | nil => rfl
  | cons store stores ih =>
    have htail : ¬ Sets stores a k := fun ⟨other, hmem, hother⟩ =>
      hsets ⟨other, List.mem_cons_of_mem _ hmem, hother⟩
    have hhead : ¬ (store.addr = a ∧ store.mask.getLsbD k = true) := fun hstore =>
      hsets ⟨store, by simp, hstore⟩
    have hrest := ih htail (apply words store)
    rw [getLsbD_apply, if_neg hhead] at hrest
    exact hrest

/-- A bit that is set ends with a value that does not depend on the words before. -/
theorem getLsbD_apply_all_of_sets {stores : List (MaskedStore A w)} {a : A} {k : Nat}
    (hsets : Sets stores a k) :
    ∃ bit, ∀ words : A → BitVec w, (apply_all words stores a).getLsbD k = bit := by
  induction stores with
  | nil =>
    obtain ⟨store, hmem, _⟩ := hsets
    cases hmem
  | cons store stores ih =>
    by_cases htail : Sets stores a k
    · obtain ⟨bit, hbit⟩ := ih htail
      exact ⟨bit, fun words => hbit (apply words store)⟩
    · have hhead : store.addr = a ∧ store.mask.getLsbD k = true := by
        obtain ⟨other, hmem, hother⟩ := hsets
        rcases List.mem_cons.mp hmem with rfl | hmem
        · exact hother
        · exact absurd ⟨other, hmem, hother⟩ htail
      refine ⟨store.source.getLsbD k, fun words => ?_⟩
      have hrest := getLsbD_apply_all_of_not_sets htail (apply words store)
      rw [getLsbD_apply, if_pos hhead] at hrest
      exact hrest

/-- The stores leave every array unchanged just when they set no bit: no array holds
both values of a bit that is set. -/
theorem apply_all_eq_self_iff (stores : List (MaskedStore A w)) :
    (∀ words : A → BitVec w, apply_all words stores = words) ↔
      ∀ store ∈ stores, store.mask = 0 := by
  constructor
  · intro hself store hmem
    by_contra hmask
    obtain ⟨k, hk⟩ : ∃ k, store.mask.getLsbD k = true := by
      by_contra hnone
      apply hmask
      apply BitVec.eq_of_getLsbD_eq
      intro k _
      have hbit : ¬ store.mask.getLsbD k = true := fun hk => hnone ⟨k, hk⟩
      simpa using hbit
    have hlt : k < w := by
      by_contra hge
      rw [BitVec.getLsbD_of_ge _ _ (Nat.le_of_not_lt hge)] at hk
      cases hk
    obtain ⟨bit, hbit⟩ := getLsbD_apply_all_of_sets ⟨store, hmem, rfl, hk⟩
    let words : A → BitVec w := fun _ => if bit then 0 else BitVec.allOnes w
    have hsame : (words store.addr).getLsbD k = bit := by
      rw [← hbit words, hself words]
    cases bit <;> simp [words, hlt] at hsame
  · intro hmasks words
    exact apply_all_of_masks_zero hmasks words

end MaskedStore

/-- Assignments to other cells leave a cell alone. -/
theorem foldl_update_of_ne {I A B : Type} [DecidableEq A] {addr : I → A} {value : I → B → B}
    {indices : List I} {a : A} (haddr : ∀ i ∈ indices, addr i ≠ a) (words : A → B) :
    indices.foldl (fun words i => Function.update words (addr i) (value i (words (addr i))))
      words a = words a := by
  induction indices generalizing words with
  | nil => rfl
  | cons i indices ih =>
    rw [List.foldl_cons, ih fun j hj => haddr j (List.mem_cons_of_mem _ hj)]
    exact Function.update_of_ne (Ne.symm (haddr i List.mem_cons_self)) _ _

end foundation
