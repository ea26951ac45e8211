import Mathlib

namespace foundation

/-- The same bits up to a position. -/
def AgreeBelow {w : Nat} (n : Nat) (x y : BitVec w) : Prop :=
  ∀ i < n, x.getLsbD i = y.getLsbD i

namespace AgreeBelow

variable {w m n : Nat} {x y x' y' : BitVec w}

theorem refl (n : Nat) (x : BitVec w) : AgreeBelow n x x := fun _ _ => rfl

theorem zero (x y : BitVec w) : AgreeBelow 0 x y := fun i hi => absurd hi (Nat.not_lt_zero i)

theorem mono (h : AgreeBelow n x y) (hm : m ≤ n) : AgreeBelow m x y :=
  fun i hi => h i (hi.trans_le hm)

theorem setWidth_eq (h : AgreeBelow n x y) (hm : m ≤ n) : x.setWidth m = y.setWidth m := by
  apply BitVec.eq_of_getLsbD_eq
  intro i hi
  rw [BitVec.getLsbD_setWidth, BitVec.getLsbD_setWidth, h i (by omega)]

theorem eq (h : AgreeBelow n x y) (hw : w ≤ n) : x = y := by
  have hsame := h.setWidth_eq hw
  rwa [BitVec.setWidth_eq, BitVec.setWidth_eq] at hsame

theorem toNat_mod_eq (h : AgreeBelow n x y) : x.toNat % 2 ^ n = y.toNat % 2 ^ n := by
  rw [← BitVec.toNat_setWidth, ← BitVec.toNat_setWidth, h.setWidth_eq (Nat.le_refl n)]

theorem or (h : AgreeBelow n x y) (h' : AgreeBelow n x' y') :
    AgreeBelow n (x ||| x') (y ||| y') := by
  intro i hi
  rw [BitVec.getLsbD_or, BitVec.getLsbD_or, h i hi, h' i hi]

/-- Bits that are cleared agree as well. -/
theorem clear (h : AgreeBelow n x y) {mask : BitVec w}
    (hmask : ∀ i, n ≤ i → i < m → mask.getLsbD i = false) :
    AgreeBelow m (x &&& mask) (y &&& mask) := by
  intro i hi
  rw [BitVec.getLsbD_and, BitVec.getLsbD_and]
  by_cases hn : i < n
  · rw [h i hn]
  · rw [hmask i (Nat.le_of_not_lt hn) hi, Bool.and_false, Bool.and_false]

end AgreeBelow

end foundation
