import Mathlib

/-! Reflected cyclic redundancy checks: the register is shifted to the right, one bit of the
message at a time. -/

namespace foundation.Crc

variable {w : Nat} (poly : BitVec w)

/-- The low bit leaves the register, and takes the polynomial with it when it is set. -/
def shift (crc : BitVec w) : BitVec w := (crc >>> 1) ^^^ (if crc.getLsbD 0 then poly else 0#w)

/-- A byte is added to the low end of the register, and shifted out bit by bit. -/
def feed (crc : BitVec w) (byte : BitVec 8) : BitVec w := (shift poly)^[8] (crc ^^^ byte.setWidth w)

/-- The register after the bytes of a message. -/
def register (crc : BitVec w) (bytes : List (BitVec 8)) : BitVec w := bytes.foldl (feed poly) crc

@[simp] theorem register_cons (crc : BitVec w) (byte : BitVec 8) (bytes : List (BitVec 8)) :
    register poly crc (byte :: bytes) = register poly (feed poly crc byte) bytes := rfl

theorem register_append (crc : BitVec w) (bytes others : List (BitVec 8)) :
    register poly crc (bytes ++ others) = register poly (register poly crc bytes) others :=
  List.foldl_append

/-- The register is linear in its content. -/
theorem shift_xor (a b : BitVec w) : shift poly (a ^^^ b) = shift poly a ^^^ shift poly b := by
  apply BitVec.eq_of_getLsbD_eq
  intro i _
  simp only [shift, BitVec.getLsbD_xor, BitVec.getLsbD_ushiftRight]
  cases a.getLsbD 0 <;> cases b.getLsbD 0 <;> cases a.getLsbD (1 + i) <;>
    cases b.getLsbD (1 + i) <;> simp

theorem shifts_xor (n : Nat) (a b : BitVec w) :
    (shift poly)^[n] (a ^^^ b) = (shift poly)^[n] a ^^^ (shift poly)^[n] b := by
  induction n generalizing a b with
  | zero => rfl
  | succ n ih => rw [Function.iterate_succ_apply, shift_xor, ih]; rfl

/-- Bits that are not set leave the others as they are. -/
theorem shifts_of_low (n : Nat) {crc : BitVec w} (hlow : ∀ i < n, crc.getLsbD i = false) :
    (shift poly)^[n] crc = crc >>> n := by
  induction n generalizing crc with
  | zero => simp
  | succ n ih =>
    have hshift : shift poly crc = crc >>> 1 := by
      rw [shift, hlow 0 (Nat.succ_pos n)]
      simp
    rw [Function.iterate_succ_apply, hshift, ih, ← BitVec.shiftRight_add, Nat.add_comm]
    intro i hi
    rw [BitVec.getLsbD_ushiftRight]
    exact hlow (1 + i) (by omega)

/-- Only the bits that leave the register have to be looked up. -/
theorem shifts_split (n : Nat) {crc low : BitVec w}
    (hlow : ∀ i < n, low.getLsbD i = crc.getLsbD i) (hhigh : ∀ i, n ≤ i → low.getLsbD i = false) :
    (shift poly)^[n] crc = (shift poly)^[n] low ^^^ (crc >>> n) := by
  have hsplit : crc = low ^^^ (low ^^^ crc) := by
    rw [← BitVec.xor_assoc, BitVec.xor_self, BitVec.zero_xor]
  have hrest : (low ^^^ crc) >>> n = crc >>> n := by
    apply BitVec.eq_of_getLsbD_eq
    intro i _
    rw [BitVec.getLsbD_ushiftRight, BitVec.getLsbD_ushiftRight, BitVec.getLsbD_xor,
      hhigh (n + i) (Nat.le_add_right n i), Bool.false_xor]
  conv_lhs => rw [hsplit, shifts_xor]
  have hclear : ∀ i < n, (low ^^^ crc).getLsbD i = false := by
    intro i hi
    rw [BitVec.getLsbD_xor, hlow i hi, Bool.xor_self]
  rw [shifts_of_low poly n hclear, hrest]

section

variable {poly} (hpoly : poly.msb = true)

include hpoly

/-- The high bit of the register tells whether the polynomial was added. -/
theorem eq_zero_of_shift {crc : BitVec w} (hzero : shift poly crc = 0#w) : crc = 0#w := by
  have hw : 0 < w := by
    rcases Nat.eq_zero_or_pos w with rfl | hw
    · simp [BitVec.msb_zero_length] at hpoly
    · exact hw
  have hbit (i : Nat) : (shift poly crc).getLsbD i = false := by rw [hzero, BitVec.getLsbD_zero]
  have hlow : crc.getLsbD 0 = false := by
    have hlast := hbit (w - 1)
    have hpast : crc.getLsbD (1 + (w - 1)) = false := BitVec.getLsbD_of_ge crc _ (by omega)
    rw [BitVec.msb_eq_getLsbD_last] at hpoly
    rw [shift, BitVec.getLsbD_xor, BitVec.getLsbD_ushiftRight, hpast, Bool.false_xor] at hlast
    by_contra hset
    rw [Bool.not_eq_false] at hset
    rw [hset, if_pos rfl, hpoly] at hlast
    cases hlast
  apply BitVec.eq_of_getLsbD_eq
  intro i _
  rw [BitVec.getLsbD_zero]
  cases i with
  | zero => exact hlow
  | succ i =>
    have hnext := hbit i
    rwa [shift, hlow, if_neg Bool.false_ne_true, BitVec.xor_zero, BitVec.getLsbD_ushiftRight,
      Nat.add_comm] at hnext

theorem shift_injective : Function.Injective (shift poly) := by
  intro a b hsame
  refine BitVec.xor_eq_zero_iff.mp (eq_zero_of_shift hpoly ?_)
  rw [shift_xor, hsame, BitVec.xor_self]

theorem feed_injective (byte : BitVec 8) : Function.Injective fun crc => feed poly crc byte := by
  intro a b hsame
  exact (BitVec.xor_left_inj _).mp ((shift_injective hpoly).iterate 8 hsame)

/-- Two registers that differ still do so after the same bytes. -/
theorem register_injective (bytes : List (BitVec 8)) :
    Function.Injective fun crc => register poly crc bytes := by
  induction bytes with
  | nil => exact Function.injective_id
  | cons byte bytes ih => exact ih.comp (feed_injective hpoly byte)

end

/-- The bytes side by side, the first one at the low end. -/
def pack : List (BitVec 8) → BitVec w
  | [] => 0
  | byte :: bytes => byte.setWidth w ^^^ (pack bytes <<< 8)

theorem getLsbD_pack_of_ge {bytes : List (BitVec 8)} {i : Nat} (hi : 8 * bytes.length ≤ i) :
    (pack bytes : BitVec w).getLsbD i = false := by
  induction bytes generalizing i with
  | nil => exact BitVec.getLsbD_zero
  | cons byte bytes ih =>
    rw [List.length_cons] at hi
    rw [pack, BitVec.getLsbD_xor, BitVec.getLsbD_setWidth, BitVec.getLsbD_shiftLeft,
      ih (by omega), BitVec.getLsbD_of_ge byte i (by omega)]
    simp

section

variable {byte : BitVec 8} {bytes : List (BitVec 8)}
  (hroom : 8 * (byte :: bytes).length ≤ w)

include hroom

/-- What is packed behind a byte is not lost. -/
theorem shifts_pack_behind : (shift poly)^[8] ((pack bytes : BitVec w) <<< 8) = pack bytes := by
  rw [List.length_cons] at hroom
  rw [shifts_of_low]
  · apply BitVec.eq_of_getLsbD_eq
    intro i hi
    rw [BitVec.getLsbD_ushiftRight, BitVec.getLsbD_shiftLeft]
    by_cases hbits : 8 * bytes.length ≤ i
    · simp [getLsbD_pack_of_ge hbits]
    · simp [show 8 + i < w by omega]
  · intro i hi
    simp [BitVec.getLsbD_shiftLeft, hi]

theorem setWidth_pack_cons : (pack (byte :: bytes) : BitVec w).setWidth 8 = byte := by
  rw [List.length_cons] at hroom
  apply BitVec.eq_of_getLsbD_eq
  intro i hi
  simp [pack, hi, show i < w by omega]

theorem shiftRight_pack_cons : (pack (byte :: bytes) : BitVec w) >>> 8 = pack bytes := by
  rw [List.length_cons] at hroom
  apply BitVec.eq_of_getLsbD_eq
  intro i hi
  rw [BitVec.getLsbD_ushiftRight, pack, BitVec.getLsbD_xor, BitVec.getLsbD_setWidth,
    BitVec.getLsbD_of_ge byte (8 + i) (Nat.le_add_right 8 i), BitVec.getLsbD_shiftLeft]
  by_cases hbits : 8 * bytes.length ≤ i
  · simp [getLsbD_pack_of_ge hbits]
  · simp [show 8 + i < w by omega]

end

theorem pack_injective {bytes others : List (BitVec 8)} (hlength : bytes.length = others.length)
    (hroom : 8 * bytes.length ≤ w) (hsame : (pack bytes : BitVec w) = pack others) :
    bytes = others := by
  induction bytes generalizing others with
  | nil => exact (List.length_eq_zero_iff.mp hlength.symm).symm
  | cons byte bytes ih =>
    obtain ⟨other, others, rfl⟩ := List.exists_cons_of_length_eq_add_one hlength.symm
    have hroom' : 8 * (other :: others).length ≤ w := hlength ▸ hroom
    have hbyte : byte = other := by
      rw [← setWidth_pack_cons hroom, hsame, setWidth_pack_cons hroom']
    have hrest : (pack bytes : BitVec w) = pack others := by
      rw [← shiftRight_pack_cons hroom, hsame, shiftRight_pack_cons hroom']
    rw [hbyte, ih (Nat.succ.inj hlength) (by rw [List.length_cons] at hroom; omega) hrest]

/-- Bytes that fit in the register can be added to it before it is shifted. -/
theorem register_eq_shifts {bytes : List (BitVec 8)} (hroom : 8 * bytes.length ≤ w)
    (crc : BitVec w) :
    register poly crc bytes = (shift poly)^[8 * bytes.length] (crc ^^^ pack bytes) := by
  induction bytes generalizing crc with
  | nil => exact (BitVec.xor_zero).symm
  | cons byte bytes ih =>
    have hlength : 8 * (byte :: bytes).length = 8 * bytes.length + 8 := by
      rw [List.length_cons, Nat.mul_add_one]
    have hpacked : (shift poly)^[8] (crc ^^^ pack (byte :: bytes)) =
        feed poly crc byte ^^^ pack bytes := by
      rw [pack, ← BitVec.xor_assoc, shifts_xor, shifts_pack_behind poly hroom, feed]
    rw [register_cons, ih (by omega), hlength, Function.iterate_add_apply, hpacked]

/-- A change of bytes that lie together in the width of the register changes it, whatever
comes before and after them. -/
theorem register_ne_of_window {poly : BitVec w} (hpoly : poly.msb = true) (crc : BitVec w)
    (before after : List (BitVec 8)) {window other : List (BitVec 8)}
    (hlength : window.length = other.length) (hroom : 8 * window.length ≤ w)
    (hne : window ≠ other) :
    register poly crc (before ++ window ++ after) ≠
      register poly crc (before ++ other ++ after) := by
  intro hsame
  simp only [register_append] at hsame
  have hwindow := register_injective hpoly after hsame
  have hroom' : 8 * other.length ≤ w := hlength ▸ hroom
  generalize register poly crc before = reached at hwindow
  rw [register_eq_shifts poly hroom, register_eq_shifts poly hroom', ← hlength] at hwindow
  have hpacked := (BitVec.xor_right_inj _).mp ((shift_injective hpoly).iterate _ hwindow)
  exact hne (pack_injective hlength hroom hpacked)

end foundation.Crc
