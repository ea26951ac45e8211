import Mathlib

namespace foundation

/-- The field of `n` bits from a position of a sequence of bits on. -/
def bit_field (bits : Nat → Bool) (offset n : Nat) : BitVec n :=
  BitVec.ofFnLE fun i : Fin n => bits (offset + i)

section

variable {bits : Nat → Bool} {offset shift n w i : Nat}

theorem getLsbD_bit_field (hi : i < n) : (bit_field bits offset n).getLsbD i = bits (offset + i) := by
  rw [BitVec.getLsbD_eq_getElem hi, bit_field, BitVec.getElem_ofFnLE]

/-- A field taken out of a word that holds it. -/
theorem setWidth_bit_field_shift (h : shift + n ≤ w) :
    (bit_field bits offset w >>> shift).setWidth n = bit_field bits (offset + shift) n := by
  apply BitVec.eq_of_getLsbD_eq
  intro i hi
  rw [BitVec.getLsbD_setWidth, BitVec.getLsbD_ushiftRight, getLsbD_bit_field (by omega),
    getLsbD_bit_field hi, decide_eq_true hi, Bool.true_and, Nat.add_assoc]

end

/-- The `n` least significant bits. -/
def low_mask (w n : Nat) : BitVec w :=
  if n < w then ((1 : BitVec w) <<< n) - 1 else BitVec.allOnes w

section

variable {w n i : Nat}

theorem toNat_low_mask (h : n ≤ w) : (low_mask w n).toNat = 2 ^ n - 1 := by
  rw [low_mask]
  split
  next hlt =>
    have hone : (1 : BitVec w).toNat = 1 := BitVec.toNat_one (by omega)
    have hshift : ((1 : BitVec w) <<< n).toNat = 2 ^ n := by
      rw [BitVec.toNat_shiftLeft, hone, Nat.shiftLeft_eq, Nat.one_mul]
      exact Nat.mod_eq_of_lt (Nat.pow_lt_pow_right (by decide) hlt)
    have hle : (1 : BitVec w) ≤ (1 : BitVec w) <<< n := by
      rw [BitVec.le_def, hone, hshift]
      exact Nat.one_le_two_pow
    rw [BitVec.toNat_sub_of_le hle, hone, hshift]
  next hge =>
    have hn : n = w := by omega
    rw [BitVec.toNat_allOnes, hn]

theorem getLsbD_low_mask (h : n ≤ w) (i : Nat) : (low_mask w n).getLsbD i = decide (i < n) := by
  rw [BitVec.getLsbD, toNat_low_mask h, Nat.testBit_two_pow_sub_one]

/-- A masked word is its low bits, with zeros past them. -/
theorem and_low_mask (h : n ≤ w) (x : BitVec w) :
    x &&& low_mask w n = (x.setWidth n).setWidth w := by
  apply BitVec.eq_of_getLsbD_eq
  intro i hi
  rw [BitVec.getLsbD_and, getLsbD_low_mask h, BitVec.getLsbD_setWidth, BitVec.getLsbD_setWidth,
    decide_eq_true hi, Bool.true_and, Bool.and_comm]

/-- The last bit that is kept is all that is left past the others. -/
theorem masked_sign (hpos : 1 ≤ n) (h : n ≤ w) (x : BitVec w) :
    (x &&& low_mask w n) >>> (n - 1) ≠ 0 ↔ (x.setWidth n).msb = true := by
  have hbit : ∀ i, ((x &&& low_mask w n) >>> (n - 1)).getLsbD i =
      (decide (i = 0) && (x.setWidth n).msb) := by
    intro i
    rw [BitVec.getLsbD_ushiftRight, BitVec.getLsbD_and, getLsbD_low_mask h,
      BitVec.msb_eq_getLsbD_last, BitVec.getLsbD_setWidth]
    by_cases hi : i = 0
    · subst hi
      simp [show n - 1 < n by omega]
    · simp [hi, show ¬n - 1 + i < n by omega]
  have hclear : ∀ i, (0 : BitVec w).getLsbD i = false := fun _ => BitVec.getLsbD_zero
  constructor
  · intro hne
    by_contra hmsb
    refine hne (BitVec.eq_of_getLsbD_eq fun i _ => ?_)
    rw [hbit, Bool.eq_false_iff.mpr hmsb, Bool.and_false, hclear]
  · intro hmsb hzero
    have hfirst := hbit 0
    rw [hzero, hmsb, hclear] at hfirst
    exact absurd hfirst (by decide)

/-- A masked word with ones past the mask is its low bits, with the sign extended. -/
theorem or_not_low_mask (h : n ≤ w) {x : BitVec w} (hmsb : (x.setWidth n).msb = true) :
    x &&& low_mask w n ||| ~~~low_mask w n = (x.setWidth n).signExtend w := by
  apply BitVec.eq_of_getLsbD_eq
  intro i hi
  rw [BitVec.getLsbD_or, BitVec.getLsbD_and, BitVec.getLsbD_not, getLsbD_low_mask h,
    BitVec.getLsbD_signExtend, hmsb, BitVec.getLsbD_setWidth, decide_eq_true hi]
  by_cases hn : i < n
  · simp [hn]
  · simp [hn]

/-- A masked word with a clear sign is its low bits, with the sign extended. -/
theorem and_low_mask_of_positive (h : n ≤ w) {x : BitVec w} (hmsb : (x.setWidth n).msb = false) :
    x &&& low_mask w n = (x.setWidth n).signExtend w := by
  rw [and_low_mask h, BitVec.signExtend_eq_setWidth_of_msb_false hmsb]

end

end foundation
