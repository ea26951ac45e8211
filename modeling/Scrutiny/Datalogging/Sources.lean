import Scrutiny.Datalogging.DataLogger
import Scrutiny.Foundation.LowBits
import Scrutiny.MemoryAccess

open foundation

namespace scrutiny

namespace AnyType

variable {n : Nat} {v v' : AnyType}

/-- A member that is read and assigned. -/
theorem agreeBelow_map_uint8 (h : AgreeBelow n v v') (hn : 8 ≤ n) (f : uint8_t → uint8_t) :
    AgreeBelow n (v.set_uint8 (f v.uint8)) (v'.set_uint8 (f v'.uint8)) := by
  have hmember : v.uint8 = v'.uint8 := h.setWidth_eq hn
  rw [hmember]
  exact (h.clear fun i hle hlt => absurd hlt (by omega)).or (.refl _ _)

theorem agreeBelow_map_uint16 (h : AgreeBelow n v v') (hn : 16 ≤ n) (f : uint16_t → uint16_t) :
    AgreeBelow n (v.set_uint16 (f v.uint16)) (v'.set_uint16 (f v'.uint16)) := by
  have hmember : v.uint16 = v'.uint16 := h.setWidth_eq hn
  rw [hmember]
  exact (h.clear fun i hle hlt => absurd hlt (by omega)).or (.refl _ _)

/-- A member that is assigned, whatever was in the union. -/
theorem agreeBelow_set_uint8 (v v' : AnyType) (x : uint8_t) :
    AgreeBelow 8 (v.set_uint8 x) (v'.set_uint8 x) := by
  refine ((AgreeBelow.zero v v').clear ?_).or (.refl _ _)
  intro i hn hi
  interval_cases i <;> rfl

theorem agreeBelow_set_uint16 (v v' : AnyType) (x : uint16_t) :
    AgreeBelow 16 (v.set_uint16 x) (v'.set_uint16 x) := by
  refine ((AgreeBelow.zero v v').clear ?_).or (.refl _ _)
  intro i hn hi
  interval_cases i <;> rfl

theorem agreeBelow_set_uint32 (v v' : AnyType) (x : uint32_t) :
    AgreeBelow 32 (v.set_uint32 x) (v'.set_uint32 x) := by
  refine ((AgreeBelow.zero v v').clear ?_).or (.refl _ _)
  intro i hn hi
  interval_cases i <;> rfl

/-- An assignment leaves the bits past the member alone. -/
theorem getLsbD_set_uint8 (v : AnyType) (x : uint8_t) {i : Nat} (hi : 8 ≤ i) :
    (v.set_uint8 x).getLsbD i = v.getLsbD i := by
  have hmask : (0xFF#64).getLsbD i = false := BitVec.getLsbD_of_ge 0xFF#8 i hi
  rw [set_uint8, BitVec.getLsbD_or, BitVec.getLsbD_and, BitVec.getLsbD_not, hmask,
    BitVec.getLsbD_setWidth, BitVec.getLsbD_of_ge x i hi]
  by_cases h : i < 64
  · simp [h]
  · simp [BitVec.getLsbD_of_ge v i (by omega)]

theorem getLsbD_set_uint16 (v : AnyType) (x : uint16_t) {i : Nat} (hi : 16 ≤ i) :
    (v.set_uint16 x).getLsbD i = v.getLsbD i := by
  have hmask : (0xFFFF#64).getLsbD i = false := BitVec.getLsbD_of_ge 0xFFFF#16 i hi
  rw [set_uint16, BitVec.getLsbD_or, BitVec.getLsbD_and, BitVec.getLsbD_not, hmask,
    BitVec.getLsbD_setWidth, BitVec.getLsbD_of_ge x i hi]
  by_cases h : i < 64
  · simp [h]
  · simp [BitVec.getLsbD_of_ge v i (by omega)]

end AnyType

namespace MainHandler

variable [Platform]

omit [Platform] in
/-- Bytes put over the union leave nothing else of it below their end. -/
theorem overlay_agreeBelow (bytes : List uint8_t) {position : Nat} {v v' : AnyType}
    (h : AgreeBelow (8 * position) v v') :
    AgreeBelow (8 * (position + bytes.length)) (overlay v position bytes)
      (overlay v' position bytes) := by
  induction bytes generalizing position v v' with
  | nil => exact h
  | cons byte bytes ih =>
    rw [List.length_cons, Nat.add_comm bytes.length, ← Nat.add_assoc]
    refine ih ((h.clear ?_).or (.refl _ _))
    intro i hn hi
    have hbyte : ∀ k < 8, (0xFF#64).getLsbD k = true := by decide
    have hinside : ¬ i < 8 * position := by omega
    rw [BitVec.getLsbD_not, BitVec.getLsbD_shiftLeft, hbyte _ (by omega)]
    simp [hinside]

omit [Platform] in
/-- Bytes leave what is past their end alone. -/
theorem getLsbD_overlay (bytes : List uint8_t) (v : AnyType) {position i : Nat}
    (hi : 8 * (position + bytes.length) ≤ i) :
    (overlay v position bytes).getLsbD i = v.getLsbD i := by
  induction bytes generalizing position v with
  | nil => rfl
  | cons byte bytes ih =>
    rw [List.length_cons] at hi
    have hbyte : byte.getLsbD (i - 8 * position) = false :=
      BitVec.getLsbD_of_ge byte _ (by omega)
    have hmask : (0xFF#64).getLsbD (i - 8 * position) = false :=
      BitVec.getLsbD_of_ge 0xFF#8 _ (by omega)
    rw [overlay, ih _ (by omega), BitVec.getLsbD_or, BitVec.getLsbD_and, BitVec.getLsbD_not,
      BitVec.getLsbD_shiftLeft, BitVec.getLsbD_shiftLeft, BitVec.getLsbD_setWidth, hbyte, hmask]
    by_cases h : i < 64
    · simp [h]
    · simp [BitVec.getLsbD_of_ge v i (by omega)]

/-- What is read of the memory over a union. -/
theorem copy_out_agreeBelow (memory : Memory) (addr size : Nat) (v v' : AnyType) :
    AgreeBelow (8 * size) (overlay v 0 (memory.copy_out addr size).1)
      (overlay v' 0 (memory.copy_out addr size).1) := by
  have hnothing : AgreeBelow (8 * 0) v v' := .zero v v'
  have hagree := overlay_agreeBelow (memory.copy_out addr size).1 hnothing
  rwa [Memory.length_copy_out, Nat.zero_add] at hagree

theorem fetch_variable_eq (addr : Nat) (variable_type : VariableType) (v : AnyType)
    (memory : Memory) :
    fetch_variable addr variable_type v memory =
      let size := tools.get_type_size_8bits variable_type
      if size = 0 ∨ size > 8 then ((false, v), memory)
      else ((true, overlay v 0 (memory.copy_out addr size.toNat).1),
        (memory.copy_out addr size.toNat).2) := by
  have hunit : tools.get_type_size_8bits variable_type / 1 =
      tools.get_type_size_8bits variable_type := BitVec.udiv_one
  rw [fetch_variable, hunit]

omit [Platform] in
/-- A bitfield that fits in the operand takes one or two bytes. -/
theorem required_size_bitfield {bitoffset bitsize : uint8_t} (hoffset : bitoffset.toNat ≤ 7)
    (hsize : bitsize.toNat ≤ 8) (hpos : bitsize ≠ 0) :
    required_size bitsize.toNat = 1 ∧ (required_size (bitoffset.toNat + bitsize.toNat) = 1 ∨
      required_size (bitoffset.toNat + bitsize.toNat) = 2) := by
  have hbits : ∀ bits ≤ 15, 1 ≤ bits →
      required_size bits = if bits ≤ 8 then 1 else 2 := by
    decide
  have hone : 1 ≤ bitsize.toNat := by bv_omega
  rw [hbits _ (by omega) (by omega), hbits _ (by omega) (by omega), if_pos hsize]
  refine ⟨rfl, ?_⟩
  split
  · exact .inl rfl
  · exact .inr rfl

/-- The union once a bitfield was fetched in it: the bytes that were not read are left, the
others come from the memory. -/
structure Bitfield (bytes : Nat) (memory : Memory) (fetched : AnyType → AnyType) : Prop where
  agree : ∀ v v', AgreeBelow (8 * bytes) (fetched v) (fetched v')
  leftover : ∀ v i, 8 * bytes ≤ i → (fetched v).getLsbD i = v.getLsbD i
  zero : (∀ addr, memory.bytes addr = 0) → fetched 0 = 0

/-- The bitfield in the union, once the bytes that hold it are. -/
def bitfield_of (bytes : Nat) (var_tt : VariableTypeType) (bitoffset bitsize : uint8_t)
    (v : AnyType) : AnyType :=
  let shifted := if bytes = 1 then v.set_uint8 (v.uint8 >>> bitoffset.toNat)
    else v.set_uint16 (v.uint16 >>> bitoffset.toNat)
  shifted.set_uint8 (mask_bitfield shifted.uint8 var_tt bitsize)

omit [Platform] in
theorem bitfield_of_zero (bytes : Nat) (var_tt : VariableTypeType) (bitoffset bitsize : uint8_t) :
    bitfield_of bytes var_tt bitoffset bitsize 0 = 0 := by
  have hmask : mask_bitfield (0 : uint8_t) var_tt bitsize = 0 := by
    simp [mask_bitfield]
  have hshifted : (if bytes = 1 then AnyType.set_uint8 0 (AnyType.uint8 0 >>> bitoffset.toNat)
      else AnyType.set_uint16 0 (AnyType.uint16 0 >>> bitoffset.toNat)) = 0 := by
    simp [AnyType.uint8, AnyType.uint16, AnyType.set_uint8, AnyType.set_uint16]
  have hbyte : AnyType.uint8 0 = 0 := rfl
  rw [bitfield_of, hshifted, hbyte, hmask]
  rfl

theorem bitfield_of_copy {bytes : Nat} (hbytes : bytes = 1 ∨ bytes = 2)
    (var_tt : VariableTypeType) (bitoffset bitsize : uint8_t) (addr : Nat) (memory : Memory) :
    Bitfield bytes memory fun v => bitfield_of bytes var_tt bitoffset bitsize
      (overlay v 0 (memory.copy_out addr bytes).1) := by
  refine ⟨fun v v' => ?_, fun v i hi => ?_, fun hzero => ?_⟩
  · have hread := copy_out_agreeBelow memory addr bytes v v'
    refine AnyType.agreeBelow_map_uint8 ?_ (by omega) fun byte =>
      mask_bitfield byte var_tt bitsize
    split
    · exact AnyType.agreeBelow_map_uint8 hread (by omega) fun byte => byte >>> bitoffset.toNat
    · exact AnyType.agreeBelow_map_uint16 hread (by omega) fun word => word >>> bitoffset.toNat
  · simp only [bitfield_of]
    rw [AnyType.getLsbD_set_uint8 _ _ (by omega)]
    split
    · rw [AnyType.getLsbD_set_uint8 _ _ (by omega)]
      exact getLsbD_overlay _ v (by simpa using hi)
    · rw [AnyType.getLsbD_set_uint16 _ _ (by omega)]
      exact getLsbD_overlay _ v (by simpa using hi)
  · have hcopy : (memory.copy_out addr bytes).1 = List.replicate bytes 0 := by
      rw [Memory.copy_out_eq, Memory.bytes_at]
      simp [hzero]
    have hoverlay : overlay 0 0 (List.replicate bytes 0) = 0 := by
      rcases hbytes with rfl | rfl <;> decide
    simp only [hcopy, hoverlay]
    exact bitfield_of_zero bytes var_tt bitoffset bitsize

theorem fetch_bitfield_eq {bitoffset bitsize : uint8_t} (hoffset : bitoffset.toNat ≤ 7)
    (hsize : bitsize.toNat ≤ 8) (hpos : bitsize ≠ 0) {var_tt : VariableTypeType}
    (htt : var_tt = VariableTypeType._sint ∨ var_tt = VariableTypeType._uint ∨
      var_tt = VariableTypeType._boolean) (addr : Nat) (pair : AnyValAndTypePair)
    (memory : Memory) :
    let bytes := (required_size (bitoffset.toNat + bitsize.toNat)).toNat
    fetch_variable_bitfield addr var_tt bitoffset bitsize pair memory =
      ((true, ⟨bitfield_of bytes var_tt bitoffset bitsize
          (overlay pair.val 0 (memory.copy_out addr bytes).1),
        tools.make_type var_tt VariableTypeSize._8⟩), (memory.copy_out addr bytes).2) := by
  obtain ⟨houtput, hbytes | hbytes⟩ := required_size_bitfield hoffset hsize hpos
  · have hfetch : fetch_variable addr (tools.make_type VariableTypeType._uint
        (tools.get_required_type_size_8bits 1)) pair.val memory =
          ((true, overlay pair.val 0 (memory.copy_out addr 1).1),
            (memory.copy_out addr 1).2) := by
      rw [fetch_variable_eq]
      rfl
    rw [fetch_variable_bitfield, hbytes, houtput]
    simp only [if_neg hpos, if_pos htt, hfetch]
    rfl
  · have hfetch : fetch_variable addr (tools.make_type VariableTypeType._uint
        (tools.get_required_type_size_8bits 2)) pair.val memory =
          ((true, overlay pair.val 0 (memory.copy_out addr 2).1),
            (memory.copy_out addr 2).2) := by
      rw [fetch_variable_eq]
      rfl
    rw [fetch_variable_bitfield, hbytes, houtput]
    simp only [if_neg hpos, if_pos htt, hfetch]
    rfl

end MainHandler

namespace datalogging

/-- What the conditions read of a value of a type. -/
def read_as (type : VariableType) (val : AnyTypeCompare) : AnyTypeCompare :=
  if type = VariableTypeCompare._float then (AnyTypeCompare._float val).setWidth 64 else val

/-- Values that the conditions cannot tell from each other. -/
structure SameValue (pair other : AnyValAndTypeComparePair) : Prop where
  valtype : pair.valtype = other.valtype
  val : read_as pair.valtype pair.val = read_as pair.valtype other.val

theorem SameValue.refl (pair : AnyValAndTypeComparePair) : SameValue pair pair := ⟨rfl, rfl⟩

variable [Platform]

/-- The bits of a value that count, for its type. -/
def width_read (type : VariableType) : Nat :=
  if type = VariableType.boolean8 ∨ type = VariableType.boolean16 ∨
      type = VariableType.boolean32 ∨ type = VariableType.boolean64 ∨
      type = VariableType.boolean then 8 * tools.get_platform_boolean_size_8bits.toNat
  else if type = VariableType.sint8 ∨ type = VariableType.uint8 then 8
  else if type = VariableType.sint16 ∨ type = VariableType.uint16 then 16
  else if type = VariableType.sint32 ∨ type = VariableType.uint32 ∨
      type = VariableType.float32 then 32
  else 64

/-- A conversion only reads the bits that count. -/
theorem convert_same {type : VariableType} {val other : AnyType}
    (h : AgreeBelow (width_read type) val other) :
    SameValue (convert_to_compare_type ⟨val, type⟩) (convert_to_compare_type ⟨other, type⟩) := by
  unfold convert_to_compare_type
  simp only
  split_ifs with hdouble hboolean hsint8 hsint16 hsint32 huint8 huint16 huint32
  · subst hdouble
    rw [h.eq (Nat.le_refl 64)]
    exact .refl _
  · rw [width_read, if_pos hboolean] at h
    rw [boolean_value, boolean_value, h.toNat_mod_eq]
    exact .refl _
  · subst hsint8
    have hval : val.uint8 = other.uint8 := h.setWidth_eq (Nat.le_refl 8)
    rw [hval]
    exact .refl _
  · subst hsint16
    have hval : val.uint16 = other.uint16 := h.setWidth_eq (Nat.le_refl 16)
    rw [hval]
    exact .refl _
  · subst hsint32
    have hval : val.uint32 = other.uint32 := h.setWidth_eq (Nat.le_refl 32)
    rw [hval]
    exact .refl _
  · subst huint8
    have hval : val.uint8 = other.uint8 := h.setWidth_eq (Nat.le_refl 8)
    rw [hval]
    exact .refl _
  · subst huint16
    have hval : val.uint16 = other.uint16 := h.setWidth_eq (Nat.le_refl 16)
    rw [hval]
    exact .refl _
  · subst huint32
    have hval : val.uint32 = other.uint32 := h.setWidth_eq (Nat.le_refl 32)
    rw [hval]
    exact .refl _
  · -- The value is compared as it is.
    refine ⟨rfl, ?_⟩
    by_cases hfloat : type = VariableType.float32
    · subst hfloat
      have hval : val.uint32 = other.uint32 := h.setWidth_eq (Nat.le_refl 32)
      exact congrArg (BitVec.setWidth 64) hval
    · have hwidth : width_read type = 64 := by
        rw [width_read, if_neg hboolean, if_neg (not_or.mpr ⟨hsint8, huint8⟩),
          if_neg (not_or.mpr ⟨hsint16, huint16⟩),
          if_neg (not_or.mpr ⟨hsint32, not_or.mpr ⟨huint32, hfloat⟩⟩)]
      rw [hwidth] at h
      rw [h.eq (Nat.le_refl 64)]

/-- The value of a supported type fills its size. -/
theorem width_read_of_supported {type : VariableType}
    (hsupported : tools.is_supported_type type = true) :
    width_read type = 8 * (tools.get_type_size_8bits type).toNat := by
  unfold tools.is_supported_type at hsupported
  simp only at hsupported
  by_cases hboolean : type = VariableType.boolean
  · subst hboolean
    rfl
  · have hsize : type ≠ VariableType.unknown →
        tools.get_type_size_8bits type = BitVec.ofNat 8 (1 <<< (type &&& 0xF).toNat) := by
      intro hknown
      rw [tools.get_type_size_8bits, if_neg hknown, if_neg hboolean]
    split_ifs at hsupported with hempty hlarge hnative hfloat
    · rw [width_read, if_pos, beq_iff_eq.mp hsupported]
      rw [hsize (by rintro rfl; cases hnative)] at hempty hlarge
      clear hsupported hsize
      revert type
      decide +kernel
    all_goals
      have hnot : ¬(type = VariableType.boolean8 ∨ type = VariableType.boolean16 ∨
          type = VariableType.boolean32 ∨ type = VariableType.boolean64 ∨
          type = VariableType.boolean) := by
        rintro (rfl | rfl | rfl | rfl | rfl) <;> exact hnative rfl
      rw [width_read, if_neg hnot]
      clear hnot
    · rw [hsize (by rintro rfl; cases hfloat)] at hsupported ⊢
      clear hempty hlarge hsize
      revert type
      decide +kernel
    · rw [hsize (by rintro rfl; cases hsupported)] at hempty hlarge ⊢
      clear hsize
      revert type
      decide +kernel

/-- Two fetches of an operand, over different leftovers. -/
structure FetchedAlike (first second : (Bool × AnyValAndTypePair) × Memory) : Prop where
  success : first.1.1 = second.1.1
  memory : first.2 = second.2
  value : first.1.1 = true →
    SameValue (convert_to_compare_type first.1.2) (convert_to_compare_type second.1.2)

/-- The value of the operand is that of its source, whatever was there before. -/
def from_source (handler : Config) (operand : Operand) : Prop :=
  ∀ pair other caller memory, FetchedAlike (fetch_operand handler operand pair caller memory)
    (fetch_operand handler operand other caller memory)

/-- A bitfield whose type is not that of an integer is not read, and one that is read as a
`bool` of more bytes than are fetched keeps the others. -/
def keeps_leftover (operand : Operand) : Prop :=
  operand.type = OperandType.VarBit ∧ operand.bitsize ≠ 0 ∧
    (tools.get_var_type_type operand.datatype = VariableTypeType._float ∨
      tools.get_var_type_type operand.datatype = VariableTypeType._boolean ∧
        (MainHandler.required_size (operand.bitoffset.toNat + operand.bitsize.toNat)).toNat <
          tools.get_platform_boolean_size_8bits.toNat)

instance (operand : Operand) : Decidable (keeps_leftover operand) :=
  inferInstanceAs (Decidable (_ ∧ _))

theorem alike_of_success {type : VariableType} {val other : AnyType} (memory : Memory)
    (h : AgreeBelow (width_read type) val other) :
    FetchedAlike ((true, ⟨val, type⟩), memory) ((true, ⟨other, type⟩), memory) :=
  ⟨rfl, rfl, fun _ => convert_same h⟩

theorem alike_of_failure (pair other : AnyValAndTypePair) (memory : Memory) :
    FetchedAlike ((false, pair), memory) ((false, other), memory) :=
  ⟨rfl, rfl, fun h => by cases h⟩

theorem literal_from_source (handler : Config) {operand : Operand}
    (htype : operand.type = OperandType.Literal) : from_source handler operand := by
  intro pair other caller memory
  simp only [fetch_operand, if_pos htype]
  exact alike_of_success memory (AnyType.agreeBelow_set_uint32 pair.val other.val operand.val)

theorem rpv_from_source (handler : Config) {operand : Operand}
    (htype : operand.type = OperandType.Rpv) : from_source handler operand := by
  intro pair other caller memory
  have hliteral : ¬operand.type = OperandType.Literal := by
    rw [htype]
    decide
  simp only [fetch_operand, if_neg hliteral, if_pos htype]
  exact ⟨rfl, rfl, fun _ => .refl _⟩

theorem var_from_source (handler : Config) {operand : Operand}
    (htype : operand.type = OperandType.Var)
    (hsupported : tools.is_supported_type operand.datatype = true) :
    from_source handler operand := by
  intro pair other caller memory
  have hliteral : ¬operand.type = OperandType.Literal := by
    rw [htype]
    decide
  have hrpv : ¬operand.type = OperandType.Rpv := by
    rw [htype]
    decide
  simp only [fetch_operand, if_neg hliteral, if_neg hrpv, if_pos htype,
    MainHandler.fetch_variable_eq]
  split
  · exact alike_of_failure _ _ memory
  · refine alike_of_success _ ?_
    rw [width_read_of_supported hsupported]
    exact MainHandler.copy_out_agreeBelow memory operand.addr _ pair.val other.val

section

variable {operand : Operand}

theorem fetch_operand_varbit (handler : Config) (htype : operand.type = OperandType.VarBit)
    (pair : AnyValAndTypePair) (caller : Option LoopId) (memory : Memory) :
    fetch_operand handler operand pair caller memory =
      let fetched := MainHandler.fetch_variable_bitfield operand.addr
        (tools.get_var_type_type operand.datatype) operand.bitoffset operand.bitsize pair memory
      if fetched.1.1 then ((true, fetched.1.2), fetched.2)
      else ((false, ⟨0, VariableType.float32⟩), fetched.2) := by
  have hliteral : ¬operand.type = OperandType.Literal := by
    rw [htype]
    decide
  have hrpv : ¬operand.type = OperandType.Rpv := by
    rw [htype]
    decide
  have hvar : ¬operand.type = OperandType.Var := by
    rw [htype]
    decide
  simp only [fetch_operand, if_neg hliteral, if_neg hrpv, if_neg hvar, if_pos htype]

/-- What is checked of a bitfield. -/
structure ValidBitfield (operand : Operand) : Prop where
  bitoffset : operand.bitoffset.toNat ≤ 7
  bitsize : operand.bitsize.toNat ≤ 8
  supported : tools.is_supported_type operand.datatype = true

theorem valid_bitfield {handler : Config} (htype : operand.type = OperandType.VarBit)
    (hvalid : DataLogger.operand_valid handler operand = true) : ValidBitfield operand := by
  have hliteral : ¬operand.type = OperandType.Literal := by
    rw [htype]
    decide
  have hrpv : ¬operand.type = OperandType.Rpv := by
    rw [htype]
    decide
  have hvar : ¬operand.type = OperandType.Var := by
    rw [htype]
    decide
  simp only [DataLogger.operand_valid, if_neg hliteral, if_neg hrpv, if_neg hvar, if_pos htype,
    Bool.and_eq_true, decide_eq_true_eq] at hvalid
  exact ⟨hvalid.1.1.1, hvalid.1.1.2, hvalid.1.2⟩

/-- A supported type is that of an integer, of a float or of a `bool`. -/
theorem supported_kind {type : VariableType} (hsupported : tools.is_supported_type type = true) :
    (tools.get_var_type_type type = VariableTypeType._sint ∨
      tools.get_var_type_type type = VariableTypeType._uint ∨
      tools.get_var_type_type type = VariableTypeType._boolean) ∨
      tools.get_var_type_type type = VariableTypeType._float := by
  unfold tools.is_supported_type at hsupported
  simp only at hsupported
  split_ifs at hsupported with hboolean hempty hlarge hnative hfloat
  · rw [hboolean]
    exact .inl (.inr (.inr rfl))
  · exact .inl (.inr (.inr hnative))
  · exact .inr hfloat
  · rw [Bool.or_eq_true, beq_iff_eq, beq_iff_eq] at hsupported
    exact .inl (hsupported.symm.imp_right .inl)

theorem varbit_from_source {handler : Config} (htype : operand.type = OperandType.VarBit)
    (hvalid : DataLogger.operand_valid handler operand = true)
    (hkept : ¬keeps_leftover operand) : from_source handler operand := by
  obtain ⟨hoffset, hsize, hsupported⟩ := valid_bitfield htype hvalid
  intro pair other caller memory
  rw [fetch_operand_varbit handler htype, fetch_operand_varbit handler htype]
  by_cases hpos : operand.bitsize = 0
  · simp only [MainHandler.fetch_variable_bitfield, if_pos hpos]
    exact alike_of_failure _ _ memory
  · rcases supported_kind hsupported with hkind | hfloat
    · rw [MainHandler.fetch_bitfield_eq hoffset hsize hpos hkind,
        MainHandler.fetch_bitfield_eq hoffset hsize hpos hkind]
      obtain ⟨_, hbytes⟩ := MainHandler.required_size_bitfield hoffset hsize hpos
      have hagree := (MainHandler.bitfield_of_copy
        (hbytes.imp (congrArg BitVec.toNat) (congrArg BitVec.toNat))
        (tools.get_var_type_type operand.datatype) operand.bitoffset operand.bitsize operand.addr
        memory).agree pair.val other.val
      refine alike_of_success _ (hagree.mono ?_)
      have hone : 1 ≤ (MainHandler.required_size
          (operand.bitoffset.toNat + operand.bitsize.toNat)).toNat := by
        rcases hbytes with h | h <;> rw [h] <;> decide
      rcases hkind with hsint | huint | hboolean
      · rw [hsint]
        exact Nat.mul_le_mul_left 8 hone
      · rw [huint]
        exact Nat.mul_le_mul_left 8 hone
      · have hall := not_lt.mp fun hlt => hkept ⟨htype, hpos, .inr ⟨hboolean, hlt⟩⟩
        rw [hboolean]
        exact Nat.mul_le_mul_left 8 hall
    · exact absurd ⟨htype, hpos, .inl hfloat⟩ hkept

/-- A `bool` with a bit set is not zero. -/
theorem boolean_value_of_bit {val : AnyType} {i : Nat}
    (hi : i < 8 * tools.get_platform_boolean_size_8bits.toNat) (hbit : val.getLsbD i = true) :
    boolean_value val ≠ 0 := by
  have hnonzero : val.toNat % 2 ^ (8 * tools.get_platform_boolean_size_8bits.toNat) ≠ 0 := by
    intro hzero
    have htest := congrArg (fun n : Nat => n.testBit i) hzero
    rw [Nat.testBit_mod_two_pow, decide_eq_true hi, Nat.zero_testBit, Bool.true_and] at htest
    exact absurd (htest.symm.trans hbit) Bool.false_ne_true
  rw [boolean_value, if_neg hnonzero]
  decide

/-- What was in the union shows. -/
theorem not_from_source {handler : Config}
    (hvalid : DataLogger.operand_valid handler operand = true)
    (hkept : keeps_leftover operand) : ¬from_source handler operand := by
  intro hsource
  obtain ⟨htype, hpos, hkind⟩ := hkept
  obtain ⟨hoffset, hsize, hsupported⟩ := valid_bitfield htype hvalid
  obtain ⟨houtput, hbytes⟩ := MainHandler.required_size_bitfield hoffset hsize hpos
  let memory : Memory := ⟨fun _ => 0, []⟩
  rcases hkind with hfloat | ⟨hboolean, hshort⟩
  · have hfetch : ∀ pair, fetch_operand handler operand pair none memory =
        ((true, ⟨pair.val, tools.make_type VariableTypeType._float VariableTypeSize._8⟩),
          memory) := by
      intro pair
      rw [fetch_operand_varbit handler htype, MainHandler.fetch_variable_bitfield, houtput, hfloat]
      simp only [if_neg hpos]
      rfl
    obtain ⟨_, _, hvalue⟩ := hsource ⟨0, 0⟩ ⟨1, 0⟩ none memory
    rw [hfetch, hfetch] at hvalue
    have hsame : (0 : AnyType) = 1 := (hvalue rfl).val
    exact absurd hsame (by decide)
  · let bytes := (MainHandler.required_size
      (operand.bitoffset.toNat + operand.bitsize.toNat)).toNat
    let fetched v := MainHandler.bitfield_of bytes VariableTypeType._boolean operand.bitoffset
      operand.bitsize (MainHandler.overlay v 0 (memory.copy_out operand.addr bytes).1)
    have hfetch : ∀ pair, fetch_operand handler operand pair none memory =
        ((true, ⟨fetched pair.val, VariableType.boolean8⟩),
          (memory.copy_out operand.addr bytes).2) := by
      intro pair
      rw [fetch_operand_varbit handler htype,
        MainHandler.fetch_bitfield_eq hoffset hsize hpos (.inr (.inr hboolean)), hboolean]
      rfl
    have hbitfield : MainHandler.Bitfield bytes memory fetched := MainHandler.bitfield_of_copy
      (hbytes.imp (congrArg BitVec.toNat) (congrArg BitVec.toNat)) _ _ _ _ memory
    obtain ⟨_, _, hvalue⟩ := hsource ⟨0, 0⟩ ⟨BitVec.allOnes 64, 0⟩ none memory
    rw [hfetch, hfetch] at hvalue
    have hsame : boolean_value (fetched 0) = boolean_value (fetched (BitVec.allOnes 64)) :=
      (hvalue rfl).val
    have hzero : boolean_value (fetched 0) = 0 := by
      rw [hbitfield.zero fun _ => rfl, boolean_value]
      simp
    have hfew : bytes ≤ 2 := by
      rcases hbytes with h | h <;> simp only [bytes, h] <;> decide
    have hbit : (fetched (BitVec.allOnes 64)).getLsbD (8 * bytes) = true := by
      rw [hbitfield.leftover _ _ (Nat.le_refl _), BitVec.getLsbD_allOnes]
      simp only [decide_eq_true_eq]
      omega
    refine boolean_value_of_bit ?_ hbit (hsame.symm.trans hzero)
    exact Nat.mul_lt_mul_of_pos_left hshort (by decide)

/-- A valid operand comes from its source unless it keeps what was in the union. -/
theorem from_source_iff {handler : Config}
    (hvalid : DataLogger.operand_valid handler operand = true) :
    from_source handler operand ↔ ¬keeps_leftover operand := by
  constructor
  · exact fun hsource hkept => not_from_source hvalid hkept hsource
  · intro hkept
    by_cases hliteral : operand.type = OperandType.Literal
    · exact literal_from_source handler hliteral
    · by_cases hrpv : operand.type = OperandType.Rpv
      · exact rpv_from_source handler hrpv
      · by_cases hvar : operand.type = OperandType.Var
        · refine var_from_source handler hvar ?_
          rwa [DataLogger.operand_valid, if_neg hliteral, if_neg hrpv, if_pos hvar] at hvalid
        · by_cases hvarbit : operand.type = OperandType.VarBit
          · exact varbit_from_source hvarbit hvalid hkept
          · rw [DataLogger.operand_valid, if_neg hliteral, if_neg hrpv, if_neg hvar,
              if_neg hvarbit] at hvalid
            cases hvalid

end

end datalogging

end scrutiny
