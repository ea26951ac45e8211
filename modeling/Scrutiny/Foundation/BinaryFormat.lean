import Mathlib

namespace foundation

/-- A binary floating-point format: a sign, the bits of an exponent and those of a fraction. -/
structure BinaryFormat where
  exponent_bits : Nat
  fraction_bits : Nat

namespace BinaryFormat

variable (format : BinaryFormat)

def bias : Nat := 2 ^ (format.exponent_bits - 1) - 1

def fraction (code : Nat) : Nat := code % 2 ^ format.fraction_bits

def exponent (code : Nat) : Nat := code / 2 ^ format.fraction_bits % 2 ^ format.exponent_bits

def negative (code : Nat) : Bool :=
  code / 2 ^ format.fraction_bits / 2 ^ format.exponent_bits % 2 == 1

/-- Neither an infinity nor a NaN. -/
def finite (code : Nat) : Prop := format.exponent code ≠ 2 ^ format.exponent_bits - 1

instance (code : Nat) : Decidable (format.finite code) := inferInstanceAs (Decidable (_ ≠ _))

def nan (code : Nat) : Prop := ¬format.finite code ∧ format.fraction code ≠ 0

instance (code : Nat) : Decidable (format.nan code) := inferInstanceAs (Decidable (_ ∧ _))

-- A number that is finite is a multiple of the smallest one that is not zero: values are
-- counted in it.

/-- How many of the smallest number make one. -/
def scale : Nat := 2 ^ (format.bias - 1) * 2 ^ format.fraction_bits

def magnitude (code : Nat) : Nat :=
  if format.exponent code = 0 then format.fraction code
  else (2 ^ format.fraction_bits + format.fraction code) * 2 ^ (format.exponent code - 1)

def value (code : Nat) : Int :=
  if format.negative code then -(format.magnitude code : Int) else format.magnitude code

/-- A code stands for an integer. -/
structure Denotes (code : Nat) (n : Int) : Prop where
  finite : format.finite code
  value : format.value code = n * format.scale

/-- The code of a number of the format, from its fields. -/
def pack (sign : Bool) (exponent fraction : Nat) : Nat :=
  (sign.toNat * 2 ^ format.exponent_bits + exponent) * 2 ^ format.fraction_bits + fraction

def of_nat (sign : Bool) (n : Nat) : Nat :=
  if n = 0 then format.pack sign 0 0
  else format.pack sign (n.log2 + format.bias)
    (n * 2 ^ format.fraction_bits / 2 ^ n.log2 - 2 ^ format.fraction_bits)

def of_int (n : Int) : Nat := format.of_nat (decide (n < 0)) n.natAbs

theorem scale_pos : 0 < format.scale := Nat.mul_pos (Nat.two_pow_pos _) (Nat.two_pow_pos _)

section

variable {format} {sign : Bool} {exponent fraction : Nat}

theorem fraction_pack (hfraction : fraction < 2 ^ format.fraction_bits) :
    format.fraction (format.pack sign exponent fraction) = fraction := by
  rw [BinaryFormat.fraction, pack, Nat.mul_add_mod', Nat.mod_eq_of_lt hfraction]

theorem pack_div (hfraction : fraction < 2 ^ format.fraction_bits) :
    format.pack sign exponent fraction / 2 ^ format.fraction_bits =
      sign.toNat * 2 ^ format.exponent_bits + exponent := by
  rw [pack, Nat.mul_comm, Nat.mul_add_div (Nat.two_pow_pos _), Nat.div_eq_of_lt hfraction,
    Nat.add_zero]

theorem exponent_pack (hexponent : exponent < 2 ^ format.exponent_bits)
    (hfraction : fraction < 2 ^ format.fraction_bits) :
    format.exponent (format.pack sign exponent fraction) = exponent := by
  rw [BinaryFormat.exponent, pack_div hfraction, Nat.mul_add_mod', Nat.mod_eq_of_lt hexponent]

theorem negative_pack (hexponent : exponent < 2 ^ format.exponent_bits)
    (hfraction : fraction < 2 ^ format.fraction_bits) :
    format.negative (format.pack sign exponent fraction) = sign := by
  rw [negative, pack_div hfraction, Nat.mul_comm, Nat.mul_add_div (Nat.two_pow_pos _),
    Nat.div_eq_of_lt hexponent, Nat.add_zero]
  cases sign <;> rfl

end

section

variable {format} {n : Nat}

/-- The significand of an integer that has no more bits than the format. -/
theorem significand (hpos : n ≠ 0) (hn : n ≤ 2 ^ (format.fraction_bits + 1)) :
    ∃ fraction < 2 ^ format.fraction_bits,
      n * 2 ^ format.fraction_bits / 2 ^ n.log2 = 2 ^ format.fraction_bits + fraction ∧
      (2 ^ format.fraction_bits + fraction) * 2 ^ n.log2 = n * 2 ^ format.fraction_bits := by
  have hlow : 2 ^ n.log2 ≤ n := Nat.log2_self_le hpos
  have hhigh : n < 2 ^ (n.log2 + 1) := Nat.lt_log2_self
  have hexact : 2 ^ n.log2 ∣ n * 2 ^ format.fraction_bits := by
    by_cases hbits : n.log2 ≤ format.fraction_bits
    · exact Dvd.dvd.mul_left (Nat.pow_dvd_pow 2 hbits) n
    · -- Only the power of two past the others has one bit more.
      have hpower : 2 ^ (format.fraction_bits + 1) ≤ 2 ^ n.log2 :=
        Nat.pow_le_pow_right (by decide) (by omega)
      have heq : n = 2 ^ n.log2 := Nat.le_antisymm (hn.trans hpower) hlow
      exact Dvd.dvd.mul_right (Dvd.intro 1 (by rw [Nat.mul_one]; exact heq.symm)) _
  have hquotient := Nat.div_mul_cancel hexact
  have hpositive : 0 < 2 ^ n.log2 := Nat.two_pow_pos _
  have hatleast : 2 ^ format.fraction_bits ≤ n * 2 ^ format.fraction_bits / 2 ^ n.log2 := by
    rw [Nat.le_div_iff_mul_le hpositive, Nat.mul_comm]
    exact Nat.mul_le_mul_right _ hlow
  have hbelow : n * 2 ^ format.fraction_bits / 2 ^ n.log2 < 2 * 2 ^ format.fraction_bits := by
    rw [Nat.div_lt_iff_lt_mul hpositive]
    calc n * 2 ^ format.fraction_bits
        < 2 ^ (n.log2 + 1) * 2 ^ format.fraction_bits :=
          Nat.mul_lt_mul_of_pos_right hhigh (Nat.two_pow_pos _)
      _ = 2 * 2 ^ format.fraction_bits * 2 ^ n.log2 := by rw [Nat.pow_succ]; ring
  refine ⟨n * 2 ^ format.fraction_bits / 2 ^ n.log2 - 2 ^ format.fraction_bits, by omega,
    by omega, ?_⟩
  rw [Nat.add_sub_cancel' hatleast, hquotient]

theorem exponent_room (hbias : 1 ≤ format.bias) :
    format.bias + format.bias + 2 = 2 ^ format.exponent_bits := by
  have hbits : format.exponent_bits ≠ 0 := by
    intro hzero
    rw [bias, hzero] at hbias
    omega
  obtain ⟨bits, hbits⟩ := Nat.exists_eq_succ_of_ne_zero hbits
  have hone : 1 ≤ 2 ^ bits := Nat.one_le_two_pow
  rw [bias, hbits, Nat.succ_sub_one, Nat.pow_succ]
  omega

/-- The fields of an integer of no more bits than the format. -/
theorem of_nat_fields (hroom : format.fraction_bits + 1 ≤ format.bias) (sign : Bool)
    (hn : n ≤ 2 ^ (format.fraction_bits + 1)) :
    ∃ exponent fraction, exponent + 1 < 2 ^ format.exponent_bits ∧
      fraction < 2 ^ format.fraction_bits ∧
      format.of_nat sign n = format.pack sign exponent fraction ∧
      format.magnitude (format.pack sign exponent fraction) = n * format.scale := by
  have hexponents := exponent_room (by omega : 1 ≤ format.bias)
  by_cases hzero : n = 0
  · have hfraction : 0 < 2 ^ format.fraction_bits := Nat.two_pow_pos _
    refine ⟨0, 0, by omega, hfraction, by rw [of_nat, if_pos hzero], ?_⟩
    rw [magnitude, exponent_pack (by omega) hfraction, if_pos rfl, fraction_pack hfraction, hzero,
      Nat.zero_mul]
  · obtain ⟨fraction, hfraction, hquotient, hproduct⟩ := significand hzero hn
    have hlog : n.log2 ≤ format.fraction_bits + 1 := by
      have hlow := (Nat.log2_self_le hzero).trans hn
      exact (Nat.pow_le_pow_iff_right (by decide)).mp hlow
    have hshift : n.log2 + format.bias - 1 = n.log2 + (format.bias - 1) := by omega
    refine ⟨n.log2 + format.bias, fraction, by omega, hfraction, ?_, ?_⟩
    · rw [of_nat, if_neg hzero, hquotient, Nat.add_sub_cancel_left]
    · rw [magnitude, exponent_pack (by omega) hfraction, if_neg (by omega),
        fraction_pack hfraction, hshift, Nat.pow_add, ← Nat.mul_assoc, hproduct, scale]
      ring

/-- The integers of no more bits than the format are codes of it. -/
theorem denotes_of_nat (hroom : format.fraction_bits + 1 ≤ format.bias) (sign : Bool)
    (hn : n ≤ 2 ^ (format.fraction_bits + 1)) :
    format.Denotes (format.of_nat sign n) (if sign then -n else n) := by
  obtain ⟨exponent, fraction, hexponent, hfraction, hcode, hmagnitude⟩ :=
    of_nat_fields hroom sign hn
  have hfits : exponent < 2 ^ format.exponent_bits := Nat.lt_of_succ_lt hexponent
  rw [hcode]
  refine ⟨?_, ?_⟩
  · rw [finite, exponent_pack hfits hfraction]
    omega
  · rw [value, negative_pack hfits hfraction, hmagnitude]
    cases sign
    · simp
    · simp

theorem of_nat_lt (hroom : format.fraction_bits + 1 ≤ format.bias) (sign : Bool)
    (hn : n ≤ 2 ^ (format.fraction_bits + 1)) :
    format.of_nat sign n < 2 ^ (1 + format.exponent_bits + format.fraction_bits) := by
  obtain ⟨exponent, fraction, hexponent, hfraction, hcode, -⟩ := of_nat_fields hroom sign hn
  have hsign : sign.toNat ≤ 1 := Bool.toNat_le sign
  have hhigh : sign.toNat * 2 ^ format.exponent_bits + exponent + 1 ≤
      2 * 2 ^ format.exponent_bits := by
    have hbit := Nat.mul_le_mul_right (2 ^ format.exponent_bits) hsign
    omega
  have hproduct := Nat.mul_le_mul_right (2 ^ format.fraction_bits) hhigh
  rw [Nat.add_mul, Nat.one_mul] at hproduct
  rw [hcode, pack, Nat.pow_add, Nat.pow_add, Nat.pow_one]
  omega

end

section

variable {format : BinaryFormat} {n : Int}

/-- An integer of no more bits than the format has a code that stands for it. -/
theorem denotes_of_int (hroom : format.fraction_bits + 1 ≤ format.bias)
    (hn : n.natAbs ≤ 2 ^ (format.fraction_bits + 1)) :
    format.Denotes (format.of_int n) n := by
  have hdenotes := denotes_of_nat hroom (decide (n < 0)) hn
  have hsigned : (if decide (n < 0) = true then -(n.natAbs : Int) else n.natAbs) = n := by
    by_cases hneg : n < 0
    · rw [if_pos (decide_eq_true hneg)]
      omega
    · rw [if_neg fun h => hneg (of_decide_eq_true h)]
      omega
  rwa [hsigned] at hdenotes

theorem of_int_lt (hroom : format.fraction_bits + 1 ≤ format.bias)
    (hn : n.natAbs ≤ 2 ^ (format.fraction_bits + 1)) :
    format.of_int n < 2 ^ (1 + format.exponent_bits + format.fraction_bits) :=
  of_nat_lt hroom (decide (n < 0)) hn

theorem Denotes.nonneg_iff {code : Nat} (h : format.Denotes code n) :
    0 ≤ format.value code ↔ 0 ≤ n := by
  have hscale : (0 : Int) < format.scale := Int.natCast_pos.mpr format.scale_pos
  rw [h.value]
  exact mul_nonneg_iff_of_pos_right hscale

end

end BinaryFormat

/-- The format of a `float`. -/
def binary32 : BinaryFormat := ⟨8, 23⟩

end foundation
