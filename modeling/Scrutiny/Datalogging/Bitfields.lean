import Scrutiny.Datalogging.Sources
import Scrutiny.Datalogging.Reads
import Scrutiny.Host
import Scrutiny.Foundation.BitField

open foundation

namespace scrutiny

section

variable [Platform]

/-- The bits of the memory from an address on, the least significant of each byte first. -/
def Memory.bits_at (memory : Memory) (addr : Nat) (i : Nat) : Bool :=
  (memory.bytes (uintptr (addr + i / 8))).getLsbD (i % 8)

/-- The sizes of the words that hold a number of bits. -/
def covering_words (bits : Nat) : Set Nat := {bytes | (∃ k, bytes = 2 ^ k) ∧ bits ≤ 8 * bytes}

namespace MainHandler

omit [Platform] in
/-- Bytes leave what is before their start alone. -/
theorem getLsbD_overlay_before (bytes : List uint8_t) (v : AnyType) {position i : Nat}
    (hi : i < 8 * position) : (overlay v position bytes).getLsbD i = v.getLsbD i := by
  induction bytes generalizing position v with
  | nil => rfl
  | cons byte bytes ih =>
    rw [overlay, ih _ (by omega), BitVec.getLsbD_or, BitVec.getLsbD_and, BitVec.getLsbD_not,
      BitVec.getLsbD_shiftLeft, BitVec.getLsbD_shiftLeft, decide_eq_true hi]
    by_cases h : i < 64
    · simp [h]
    · simp [BitVec.getLsbD_of_ge v i (by omega)]

omit [Platform] in
/-- Each byte is found where it was put. -/
theorem getLsbD_overlay_inside (bytes : List uint8_t) (v : AnyType) {position i : Nat}
    (hfits : position + bytes.length ≤ 8) (hstart : 8 * position ≤ i)
    (hend : i < 8 * (position + bytes.length)) :
    (overlay v position bytes).getLsbD i = (bytes.getD (i / 8 - position) 0).getLsbD (i % 8) := by
  induction bytes generalizing position v with
  | nil => exact absurd hend (by simp only [List.length_nil]; omega)
  | cons byte bytes ih =>
    rw [List.length_cons] at hfits hend
    by_cases hfirst : i < 8 * (position + 1)
    · have hindex : i / 8 - position = 0 := by omega
      have hbit : i - 8 * position = i % 8 := by omega
      have hmask : ∀ k < 8, (0xFF#64).getLsbD k = true := by decide
      rw [overlay, getLsbD_overlay_before _ _ hfirst, hindex, List.getD_cons_zero,
        BitVec.getLsbD_or, BitVec.getLsbD_and, BitVec.getLsbD_not, BitVec.getLsbD_shiftLeft,
        BitVec.getLsbD_shiftLeft, BitVec.getLsbD_setWidth, hbit, hmask _ (Nat.mod_lt i (by decide))]
      simp [show i < 64 by omega, show ¬i < 8 * position by omega, show i % 8 < 64 by omega]
    · have hindex : i / 8 - position = i / 8 - (position + 1) + 1 := by omega
      rw [overlay, ih _ (by omega) (by omega) (by omega), hindex, List.getD_cons_succ]

/-- A word that was copied into the union. -/
theorem setWidth_overlay_copy (memory : Memory) (addr : Nat) (v : AnyType) {bytes : Nat}
    (hbytes : bytes ≤ 8) :
    (overlay v 0 (memory.copy_out addr bytes).1).setWidth (8 * bytes) =
      bit_field (memory.bits_at addr) 0 (8 * bytes) := by
  apply BitVec.eq_of_getLsbD_eq
  intro i hi
  have hlength := Memory.length_copy_out memory addr bytes
  have hindex : i / 8 < bytes := by omega
  rw [BitVec.getLsbD_setWidth, decide_eq_true hi, Bool.true_and,
    getLsbD_overlay_inside _ v (by omega) (by omega) (by omega), getLsbD_bit_field hi,
    Memory.copy_out_eq, Nat.sub_zero, Nat.zero_add, Memory.bytes_at,
    List.getD_eq_getElem _ _ (by simpa using hindex), List.getElem_map, List.getElem_range]
  rfl

section

variable {k : Nat}

omit [Platform] in
/-- The size of the smallest word that holds some bits, when there is one. -/
theorem required_word (bits : Nat) (hpos : 1 ≤ bits) (hbits : bits ≤ 64) :
    ∃ k ≤ 3, tools.get_required_type_size_8bits (required_size bits) = BitVec.ofNat 8 k ∧
      bits ≤ 8 * 2 ^ k ∧ ∀ j < k, 8 * 2 ^ j < bits := by
  revert hpos
  revert bits
  decide +kernel

omit [Platform] in
theorem required_word_missing {bits : Nat} (hbits : 64 < bits) (hlimit : bits ≤ 510) :
    tools.get_required_type_size_8bits (required_size bits) = VariableTypeSize._128 ∨
      tools.get_required_type_size_8bits (required_size bits) = VariableTypeSize._256 ∨
      tools.get_required_type_size_8bits (required_size bits) = VariableTypeSize._undef := by
  revert hbits
  revert bits
  decide +kernel

theorem fetch_word (addr : Nat) (v : AnyType) (memory : Memory) (hk : k ≤ 3) :
    fetch_variable addr (tools.make_type VariableTypeType._uint (BitVec.ofNat 8 k)) v memory =
      ((true, overlay v 0 (memory.copy_out addr (2 ^ k)).1),
        (memory.copy_out addr (2 ^ k)).2) := by
  rw [fetch_variable_eq]
  interval_cases k <;> rfl

theorem fetch_missing (addr : Nat) (v : AnyType) (memory : Memory) {size : VariableTypeSize}
    (hsize : size = VariableTypeSize._128 ∨ size = VariableTypeSize._256 ∨
      size = VariableTypeSize._undef) :
    fetch_variable addr (tools.make_type VariableTypeType._uint size) v memory =
      ((false, v), memory) := by
  rw [fetch_variable_eq]
  rcases hsize with rfl | rfl | rfl <;> rfl

omit [Platform] in
theorem shift_bitfield_word (v : AnyType) (bitoffset : uint8_t) (hk : k ≤ 3) :
    ∃ v', shift_bitfield v (BitVec.ofNat 8 k) bitoffset = some v' ∧
      v'.setWidth (8 * 2 ^ k) = v.setWidth (8 * 2 ^ k) >>> bitoffset.toNat := by
  interval_cases k
  · exact ⟨_, rfl, AnyType.uint8_set_uint8 v _⟩
  · exact ⟨_, rfl, AnyType.uint16_set_uint16 v _⟩
  · exact ⟨_, rfl, AnyType.uint32_set_uint32 v _⟩
  · refine ⟨_, rfl, ?_⟩
    change BitVec.setWidth 64 _ = BitVec.setWidth 64 v >>> bitoffset.toNat
    rw [BitVec.setWidth_eq, BitVec.setWidth_eq]

omit [Platform] in
theorem extract_bitfield_word (v : AnyType) (var_tt : VariableTypeType) (bitsize : uint8_t)
    (hk : k ≤ 3) :
    ∃ v', extract_bitfield v var_tt (BitVec.ofNat 8 k) bitsize = some v' ∧
      v'.setWidth (8 * 2 ^ k) = mask_bitfield (v.setWidth (8 * 2 ^ k)) var_tt bitsize := by
  interval_cases k
  · exact ⟨_, rfl, AnyType.uint8_set_uint8 v _⟩
  · exact ⟨_, rfl, AnyType.uint16_set_uint16 v _⟩
  · exact ⟨_, rfl, AnyType.uint32_set_uint32 v _⟩
  · refine ⟨_, rfl, ?_⟩
    change BitVec.setWidth 64 _ = mask_bitfield (BitVec.setWidth 64 v) var_tt bitsize
    rw [BitVec.setWidth_eq, BitVec.setWidth_eq]

end

end MainHandler

namespace datalogging

open MainHandler

/-- A kind of integer. -/
def integer_kind (var_tt : VariableTypeType) : Prop :=
  var_tt = VariableTypeType._uint ∨ var_tt = VariableTypeType._sint

/-- A field in a wider word, as an integer of its kind. -/
def extend_field {n : Nat} (var_tt : VariableTypeType) (field : BitVec n) (w : Nat) : BitVec w :=
  if var_tt = VariableTypeType._sint then field.signExtend w else field.setWidth w

section

variable {var_tt : VariableTypeType} {n m w k : Nat}

omit [Platform] in
theorem extend_field_extend (field : BitVec n) (hn : n ≤ m) (hm : m ≤ w) :
    extend_field var_tt (extend_field var_tt field m) w = extend_field var_tt field w := by
  unfold extend_field
  split
  · apply BitVec.eq_of_toInt_eq
    rw [BitVec.toInt_signExtend_of_le hm, BitVec.toInt_signExtend_of_le hn,
      BitVec.toInt_signExtend_of_le (hn.trans hm)]
  · apply BitVec.eq_of_toNat_eq
    rw [BitVec.toNat_setWidth_of_le hm, BitVec.toNat_setWidth_of_le hn,
      BitVec.toNat_setWidth_of_le (hn.trans hm)]

omit [Platform] in
/-- A mask leaves the field of the low bits, as an integer of its kind. -/
theorem mask_bitfield_eq (val : BitVec w) {bitsize : uint8_t} (hpos : 1 ≤ bitsize.toNat)
    (hw : bitsize.toNat ≤ w) :
    mask_bitfield val var_tt bitsize = extend_field var_tt (val.setWidth bitsize.toNat) w := by
  change (if var_tt = VariableTypeType._sint ∧
      (val &&& low_mask w bitsize.toNat) >>> (bitsize.toNat - 1) ≠ 0 then
    val &&& low_mask w bitsize.toNat ||| ~~~low_mask w bitsize.toNat
    else val &&& low_mask w bitsize.toNat) = _
  have hsign := masked_sign hpos hw val
  rw [extend_field]
  by_cases hsint : var_tt = VariableTypeType._sint
  · rw [if_pos hsint]
    by_cases hmsb : (val.setWidth bitsize.toNat).msb = true
    · rw [if_pos ⟨hsint, hsign.mpr hmsb⟩, or_not_low_mask hw hmsb]
    · rw [if_neg fun h => hmsb (hsign.mp h.2),
        and_low_mask_of_positive hw (Bool.eq_false_iff.mpr hmsb)]
  · rw [if_neg hsint, if_neg fun h => hsint h.1, and_low_mask hw]

/-- An integer is compared as the widest of its kind. -/
theorem convert_word (htt : integer_kind var_tt) (hk : k ≤ 3) (val : AnyType) :
    convert_to_compare_type ⟨val, tools.make_type var_tt (BitVec.ofNat 8 k)⟩ =
      ⟨extend_field var_tt (val.setWidth (8 * 2 ^ k)) 64,
        tools.make_type var_tt VariableTypeSize._64⟩ := by
  have hwhole : extend_field var_tt (val.setWidth 64) 64 = val := by
    rw [BitVec.setWidth_eq]
    unfold extend_field
    split
    · exact BitVec.signExtend_eq val
    · exact BitVec.setWidth_eq val
  rcases htt with rfl | rfl <;> interval_cases k
  · rfl
  · rfl
  · rfl
  · exact congrArg (AnyValAndTypePair.mk · _) hwhole.symm
  · rfl
  · rfl
  · rfl
  · exact congrArg (AnyValAndTypePair.mk · _) hwhole.symm

end

/-- The value of a bitfield, as it is compared. -/
def compared_bitfield (memory : Memory) (addr : Nat) (var_tt : VariableTypeType)
    (bitoffset bitsize : uint8_t) : AnyValAndTypeComparePair :=
  ⟨extend_field var_tt (bit_field (memory.bits_at addr) bitoffset.toNat bitsize.toNat) 64,
    tools.make_type var_tt VariableTypeSize._64⟩

section

variable {var_tt : VariableTypeType} {bitoffset bitsize : uint8_t}

/-- A bitfield that fits in 64 bits is read whole, from the smallest word that holds it. -/
theorem fetch_bitfield_success (htt : integer_kind var_tt) (hpos : 1 ≤ bitsize.toNat)
    (hfits : bitoffset.toNat + bitsize.toNat ≤ 64) (addr : Nat) (pair : AnyValAndTypePair)
    (memory : Memory) :
    ∃ fetched bytes, IsLeast (covering_words (bitoffset.toNat + bitsize.toNat)) bytes ∧
      fetch_variable_bitfield addr var_tt bitoffset bitsize pair memory =
        ((true, fetched), (memory.copy_out addr bytes).2) ∧
      convert_to_compare_type fetched =
        compared_bitfield memory addr var_tt bitoffset bitsize := by
  obtain ⟨k, hk, hword, hcovers, hleast⟩ :=
    required_word (bitoffset.toNat + bitsize.toNat) (by omega) hfits
  obtain ⟨m, hm, houtput, hholds, -⟩ := required_word bitsize.toNat hpos (by omega)
  have hbytes : 2 ^ k ≤ 8 := Nat.pow_le_pow_right (by decide) hk
  have hnarrow : 8 * 2 ^ m ≤ 64 := Nat.mul_le_mul_left 8 (Nat.pow_le_pow_right (by decide) hm)
  obtain ⟨shifted, hshift, hshifted⟩ := shift_bitfield_word
    (overlay pair.val 0 (memory.copy_out addr (2 ^ k)).1) bitoffset hk
  obtain ⟨extracted, hextract, hextracted⟩ :=
    extract_bitfield_word shifted var_tt bitsize hm
  refine ⟨⟨extracted, tools.make_type var_tt (BitVec.ofNat 8 m)⟩, 2 ^ k,
    ⟨⟨⟨k, rfl⟩, hcovers⟩, ?_⟩, ?_, ?_⟩
  · rintro _ ⟨⟨j, rfl⟩, hj⟩
    refine Nat.pow_le_pow_right (by decide) (Nat.le_of_not_lt fun hlt => ?_)
    exact absurd (hleast j hlt) (Nat.not_lt.mpr hj)
  · have hnonzero : bitsize ≠ 0 := by bv_omega
    have hkind : var_tt = VariableTypeType._sint ∨ var_tt = VariableTypeType._uint ∨
        var_tt = VariableTypeType._boolean := htt.elim (.inr ∘ .inl) .inl
    rw [fetch_variable_bitfield, hword, houtput]
    simp only [if_neg hnonzero, if_pos hkind, fetch_word _ _ _ hk, if_true, hshift,
      Option.bind_some, hextract]
  · -- The field is in the low bits of the word once it is shifted.
    have hfield : shifted.setWidth bitsize.toNat =
        bit_field (memory.bits_at addr) bitoffset.toNat bitsize.toNat := by
      rw [← BitVec.setWidth_setWidth_of_le shifted (by omega : bitsize.toNat ≤ 8 * 2 ^ k),
        hshifted, setWidth_overlay_copy memory addr _ hbytes,
        setWidth_bit_field_shift hcovers, Nat.zero_add]
    rw [convert_word htt hm, hextracted, mask_bitfield_eq _ hpos hholds,
      BitVec.setWidth_setWidth_of_le shifted hholds, hfield, extend_field_extend _ hholds hnarrow]
    rfl

/-- A bitfield that is empty or does not fit is not read. -/
theorem fetch_bitfield_failure (htt : integer_kind var_tt)
    (hmissing : ¬(1 ≤ bitsize.toNat ∧ bitoffset.toNat + bitsize.toNat ≤ 64)) (addr : Nat)
    (pair : AnyValAndTypePair) (memory : Memory) :
    fetch_variable_bitfield addr var_tt bitoffset bitsize pair memory =
      ((false, ⟨0, VariableType.unknown⟩), memory) := by
  by_cases hempty : bitsize = 0
  · simp only [fetch_variable_bitfield, if_pos hempty]
  · have hpos : 1 ≤ bitsize.toNat := by bv_omega
    have hlarge : 64 < bitoffset.toNat + bitsize.toNat := by omega
    have hlimit : bitoffset.toNat + bitsize.toNat ≤ 510 := by omega
    have hkind : var_tt = VariableTypeType._sint ∨ var_tt = VariableTypeType._uint ∨
        var_tt = VariableTypeType._boolean := htt.elim (.inr ∘ .inl) .inl
    simp only [fetch_variable_bitfield, if_neg hempty, if_pos hkind,
      fetch_missing _ _ _ (required_word_missing hlarge hlimit), Bool.false_eq_true, if_false]

/-- A bitfield of integer kind is fetched exactly when it has a bit and ends within the first
64, with the value of its bits, and reads nothing past the smallest word that holds it. -/
theorem fetch_bitfield_exact (htt : integer_kind var_tt) (bitoffset bitsize : uint8_t)
    (addr : Nat) (pair : AnyValAndTypePair) (memory : Memory) :
    let fetched := fetch_variable_bitfield addr var_tt bitoffset bitsize pair memory
    let compared := convert_to_compare_type fetched.1.2
    let bits i := memory.bits_at addr (bitoffset.toNat + i)
    (fetched.1.1 = true ↔ 1 ≤ bitsize.toNat ∧ bitoffset.toNat + bitsize.toNat ≤ 64) ∧
      (fetched.1.1 = true →
        (var_tt = VariableTypeType._uint → compared.valtype = VariableTypeCompare._uint ∧
          compared.val.toNat = Nat.ofBits fun i : Fin bitsize.toNat => bits i) ∧
        (var_tt = VariableTypeType._sint → compared.valtype = VariableTypeCompare._sint ∧
          compared.val.toInt = Int.ofBits fun i : Fin bitsize.toNat => bits i) ∧
        ∃ bytes, IsLeast (covering_words (bitoffset.toNat + bitsize.toNat)) bytes ∧
          memory.ReadsIn [⟨addr, bytes⟩] fetched.2) := by
  intro fetched compared bits
  by_cases hread : 1 ≤ bitsize.toNat ∧ bitoffset.toNat + bitsize.toNat ≤ 64
  · obtain ⟨value, bytes, hleast, hfetched, hcompared⟩ :=
      fetch_bitfield_success htt hread.1 hread.2 addr pair memory
    have hvalue : compared = compared_bitfield memory addr var_tt bitoffset bitsize := by
      rw [← hcompared]
      exact congrArg (fun fetched => convert_to_compare_type fetched.1.2) hfetched
    have hsize : bitsize.toNat ≤ 64 := by omega
    refine ⟨⟨fun _ => hread, fun _ => congrArg (fun fetched => fetched.1.1) hfetched⟩,
      fun _ => ⟨?_, ?_, bytes, hleast, ?_⟩⟩
    · rintro rfl
      rw [hvalue]
      refine ⟨rfl, ?_⟩
      exact (BitVec.toNat_setWidth_of_le hsize).trans (BitVec.toNat_ofFnLE _)
    · rintro rfl
      rw [hvalue]
      refine ⟨rfl, ?_⟩
      exact (BitVec.toInt_signExtend_of_le hsize).trans (BitVec.toInt_ofFnLE _)
    · rw [show fetched.2 = (memory.copy_out addr bytes).2 from congrArg Prod.snd hfetched]
      exact memory.copy_out_reads addr bytes
  · have hfailed := fetch_bitfield_failure htt hread addr pair memory
    have hfalse : fetched.1.1 = false := congrArg (fun fetched => fetched.1.1) hfailed
    rw [hfalse]
    exact ⟨⟨fun h => (Bool.false_ne_true h).elim, fun h => absurd h hread⟩,
      fun h => (Bool.false_ne_true h).elim⟩

end

end datalogging

end

section

attribute [local instance] host.platform

open datalogging MainHandler

/-- Nine bits across two bytes, over a union that was full of ones. -/
theorem datalogging.fetch_nine_bits :
    let memory : Memory := ⟨fun addr => if addr = 0x20 then 0xA5 else 0x3C, []⟩
    let fetched := fetch_variable_bitfield 0x20 VariableTypeType._sint 3 9
      ⟨BitVec.allOnes 64, VariableType.unknown⟩ memory
    let compared := convert_to_compare_type fetched.1.2
    (fetched.1.1 = true ↔ 1 ≤ 9 ∧ 3 + 9 ≤ 64) ∧
      compared.valtype = VariableTypeCompare._sint ∧ compared.val.toInt = -108 := by
  intro memory fetched compared
  have hexact := fetch_bitfield_exact (.inr rfl : integer_kind VariableTypeType._sint) 3 9 0x20
    ⟨BitVec.allOnes 64, VariableType.unknown⟩ memory
  have hvalue := (hexact.2 (hexact.1.mpr (by decide))).2.1 rfl
  exact ⟨hexact.1, hvalue.1, hvalue.2.trans (by decide +kernel)⟩

end

end scrutiny
