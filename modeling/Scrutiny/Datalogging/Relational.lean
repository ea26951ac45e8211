import Scrutiny.Datalogging.Trigger
import Scrutiny.Host

open foundation

namespace scrutiny.datalogging.trigger

/-- The relation that an operator stands for. -/
def RelationalOperator.relation (op : RelationalOperator) (a b : Int) : Prop :=
  match op with
  | .Equal => a = b
  | .NotEqual => a ≠ b
  | .GreaterThan => a > b
  | .GreaterOrEqualThan => a ≥ b
  | .LessThan => a < b
  | .LessOrEqualThan => a ≤ b

/-- The operator for the operands the other way round. -/
def RelationalOperator.mirror : RelationalOperator → RelationalOperator
  | .Equal => .Equal
  | .NotEqual => .NotEqual
  | .GreaterThan => .LessThan
  | .GreaterOrEqualThan => .LessOrEqualThan
  | .LessThan => .GreaterThan
  | .LessOrEqualThan => .GreaterOrEqualThan

instance (op : RelationalOperator) (a b : Int) : Decidable (op.relation a b) :=
  match op with
  | .Equal => inferInstanceAs (Decidable (a = b))
  | .NotEqual => inferInstanceAs (Decidable (a ≠ b))
  | .GreaterThan => inferInstanceAs (Decidable (a > b))
  | .GreaterOrEqualThan => inferInstanceAs (Decidable (a ≥ b))
  | .LessThan => inferInstanceAs (Decidable (a < b))
  | .LessOrEqualThan => inferInstanceAs (Decidable (a ≤ b))

/-- The largest value of the signed type. -/
def INT_MAX : Int := 2 ^ 63 - 1

/-- The integer that an operand of kind `_sint` or `_uint` stands for. -/
def int_value (operand : AnyValAndTypeComparePair) : Int :=
  if operand.valtype = VariableTypeCompare._sint then operand.val.toInt else operand.val.toNat

def is_integer (operand : AnyValAndTypeComparePair) : Prop :=
  operand.valtype = VariableTypeCompare._sint ∨ operand.valtype = VariableTypeCompare._uint

/-- A signed operand is the largest of its type, and an unsigned one is larger than that. -/
def saturates (signed unsigned : AnyValAndTypeComparePair) : Prop :=
  signed.valtype = VariableTypeCompare._sint ∧ int_value signed = INT_MAX ∧
    unsigned.valtype = VariableTypeCompare._uint ∧ int_value unsigned > INT_MAX

theorem RelationalOperator.relation_mirror (op : RelationalOperator) (a b : Int) :
    op.mirror.relation b a ↔ op.relation a b := by
  cases op with
  | Equal => exact eq_comm
  | NotEqual => exact ne_comm
  | GreaterThan | GreaterOrEqualThan | LessThan | LessOrEqualThan => exact Iff.rfl

/-- Two integers compare as they do when large ones are cut off, unless both are. -/
theorem RelationalOperator.relation_min (op : RelationalOperator) {a b limit : Int}
    (hsmall : a < limit ∨ b < limit ∨ a ≤ limit ∧ b ≤ limit) :
    op.relation (min a limit) (min b limit) ↔ op.relation a b := by
  cases op <;> simp only [relation] <;> omega

/-- Two integers are in exactly one of three relations. -/
theorem RelationalOperator.exactly_one (a b : Int) :
    ∃! op : RelationalOperator, op ∈ [.LessThan, .Equal, .GreaterThan] ∧ op.relation a b := by
  have hcases (op : RelationalOperator) (hmem : op ∈ [.LessThan, .Equal, .GreaterThan]) :
      op = .LessThan ∨ op = .Equal ∨ op = .GreaterThan := by simpa using hmem
  rcases Int.lt_trichotomy a b with hlt | heq | hgt
  · refine ⟨.LessThan, ⟨by simp, hlt⟩, fun op ⟨hmem, hop⟩ => ?_⟩
    rcases hcases op hmem with rfl | rfl | rfl
    · rfl
    · exact absurd hop hlt.ne
    · exact absurd hop hlt.not_gt
  · refine ⟨.Equal, ⟨by simp, heq⟩, fun op ⟨hmem, hop⟩ => ?_⟩
    rcases hcases op hmem with rfl | rfl | rfl
    · exact absurd heq (ne_of_lt hop)
    · rfl
    · exact absurd heq (ne_of_gt hop)
  · refine ⟨.GreaterThan, ⟨by simp, hgt⟩, fun op ⟨hmem, hop⟩ => ?_⟩
    rcases hcases op hmem with rfl | rfl | rfl
    · exact absurd hop hgt.not_gt
    · exact absurd hop hgt.ne'
    · rfl

theorem apply_uint_iff (op : RelationalOperator) (arg1 arg2 : uint64_t) :
    apply_uint op arg1 arg2 = true ↔ op.relation arg1.toNat arg2.toNat := by
  cases op <;>
    simp only [apply_uint, apply_relational_op, RelationalOperator.relation, beq_iff_eq,
      Bool.not_eq_true', beq_eq_false_iff_ne, BitVec.ult_iff_toNat_lt, BitVec.ule_iff_toNat_le,
      ← BitVec.toNat_inj, ne_eq] <;>
    omega

theorem apply_sint_iff (op : RelationalOperator) (arg1 arg2 : uint64_t) :
    apply_sint op arg1 arg2 = true ↔ op.relation arg1.toInt arg2.toInt := by
  cases op <;>
    simp only [apply_sint, apply_relational_op, RelationalOperator.relation, beq_iff_eq,
      Bool.not_eq_true', beq_eq_false_iff_ne, BitVec.slt_iff_toInt_lt, BitVec.sle_iff_toInt_le,
      ← BitVec.toInt_inj, ne_eq, gt_iff_lt, ge_iff_le]

theorem saturate_to_sint_toInt (val : uint64_t) :
    (saturate_to_sint val).toInt = min (val.toNat : Int) INT_MAX := by
  have hlimit : UINT_2_INT_MAX.toNat = 2 ^ 63 - 1 := by decide
  unfold saturate_to_sint INT_MAX
  split
  · rename_i hlarge
    have hlt := BitVec.lt_def.mp hlarge
    rw [hlimit] at hlt
    have htop : UINT_2_INT_MAX.toInt = 2 ^ 63 - 1 := by decide
    rw [htop]
    omega
  · rename_i hsmall
    have hle := BitVec.le_def.mp (BitVec.not_lt.mp hsmall)
    rw [hlimit] at hle
    rw [BitVec.toInt_eq_toNat_of_lt (by omega)]
    omega

/-- The integers that are compared: those of two kinds are cut off at the largest signed one. -/
def compared (operand other : AnyValAndTypeComparePair) : Int :=
  if operand.valtype = other.valtype then int_value operand else min (int_value operand) INT_MAX

section

variable [Platform]

theorem RelationalCompare_iff {operands : Nat → AnyValAndTypeComparePair}
    (h0 : is_integer (operands 0)) (h1 : is_integer (operands 1)) (op : RelationalOperator) :
    RelationalCompare op operands = true ↔
      op.relation (compared (operands 0) (operands 1)) (compared (operands 1) (operands 0)) := by
  have hkinds : VariableTypeCompare._sint ≠ VariableTypeCompare._float ∧
      VariableTypeCompare._uint ≠ VariableTypeCompare._float ∧
      VariableTypeCompare._uint ≠ VariableTypeCompare._sint := by decide
  obtain ⟨hsint, huint, hother⟩ := hkinds
  have hsigned (val : uint64_t) : min val.toInt INT_MAX = val.toInt := by
    have hlt : val.toInt < 2 ^ 63 := BitVec.toInt_lt
    exact min_eq_left (Int.le_sub_one_of_lt hlt)
  unfold RelationalCompare compared int_value
  rcases h0 with h0 | h0
  · rcases h1 with h1 | h1
    · simp only [h0, h1, hsint, if_true, if_false]
      exact apply_sint_iff op _ _
    · simp only [h0, h1, hsint, huint, hother, hother.symm, if_true, if_false, hsigned]
      rw [apply_sint_iff, saturate_to_sint_toInt]
  · rcases h1 with h1 | h1
    · simp only [h0, h1, hsint, huint, hother, hother.symm, if_true, if_false, hsigned]
      rw [apply_sint_iff, saturate_to_sint_toInt]
    · simp only [h0, h1, huint, hother, if_true, if_false]
      exact apply_uint_iff op _ _

/-- Two operands of which the signed one is the largest and the unsigned one larger. -/
def Saturated (operands : Nat → AnyValAndTypeComparePair) : Prop :=
  saturates (operands 0) (operands 1) ∨ saturates (operands 1) (operands 0)

omit [Platform] in
theorem compared_of_saturates {signed unsigned : AnyValAndTypeComparePair}
    (h : saturates signed unsigned) :
    compared signed unsigned = INT_MAX ∧ compared unsigned signed = INT_MAX := by
  obtain ⟨hsint, hlargest, huint, hlarger⟩ := h
  have hother : signed.valtype ≠ unsigned.valtype := by
    rw [hsint, huint]
    decide
  rw [compared, compared, if_neg hother, if_neg hother.symm, hlargest, min_self]
  exact ⟨rfl, min_eq_right hlarger.le⟩

omit [Platform] in
theorem int_value_le {operand : AnyValAndTypeComparePair}
    (hsint : operand.valtype = VariableTypeCompare._sint) : int_value operand ≤ INT_MAX := by
  have hlt : operand.val.toInt < 2 ^ 63 := BitVec.toInt_lt
  rw [int_value, if_pos hsint]
  exact Int.le_sub_one_of_lt hlt

omit [Platform] in
/-- Operands that are not cut off both. -/
theorem compared_of_not_saturated {operands : Nat → AnyValAndTypeComparePair}
    (h0 : is_integer (operands 0)) (h1 : is_integer (operands 1))
    (hexact : ¬ Saturated operands) (op : RelationalOperator) :
    op.relation (compared (operands 0) (operands 1)) (compared (operands 1) (operands 0)) ↔
      op.relation (int_value (operands 0)) (int_value (operands 1)) := by
  by_cases hsame : (operands 0).valtype = (operands 1).valtype
  · rw [compared, compared, if_pos hsame, if_pos hsame.symm]
  · rw [compared, compared, if_neg hsame, if_neg (Ne.symm hsame)]
    apply RelationalOperator.relation_min
    simp only [Saturated, saturates, not_or, not_and, gt_iff_lt, Int.not_lt] at hexact
    rcases h0 with h0 | h0
    · rcases h1 with h1 | h1
      · exact absurd (h0.trans h1.symm) hsame
      · have hle := int_value_le h0
        rcases Int.lt_or_eq_of_le hle with hlt | hlargest
        · exact .inl hlt
        · exact .inr (.inr ⟨hle, hexact.1 h0 hlargest h1⟩)
    · rcases h1 with h1 | h1
      · have hle := int_value_le h1
        rcases Int.lt_or_eq_of_le hle with hlt | hlargest
        · exact .inr (.inl hlt)
        · exact .inr (.inr ⟨hexact.2 h1 hlargest h0, hle⟩)
      · exact absurd (h0.trans h1.symm) hsame

/-- The comparison is that of the integers, unless both are cut off at the largest signed one: then
it is that of equal integers. It is a comparison of integers in any case. -/
theorem RelationalCompare_exact_iff {operands : Nat → AnyValAndTypeComparePair}
    (h0 : is_integer (operands 0)) (h1 : is_integer (operands 1)) :
    (∀ op : RelationalOperator,
      ((RelationalCompare op operands = true ↔
          op.relation (int_value (operands 0)) (int_value (operands 1))) ↔
        ¬ Saturated operands ∨
          (op.relation (int_value (operands 0)) (int_value (operands 1)) ↔
            op.relation (int_value (operands 0)) (int_value (operands 0))))) ∧
      (∃! op : RelationalOperator, op ∈ [.LessThan, .Equal, .GreaterThan] ∧
        RelationalCompare op operands = true) ∧
      ∀ op : RelationalOperator, RelationalCompare op.mirror (fun i => operands (1 - i)) =
        RelationalCompare op operands := by
  refine ⟨fun op => ?_, ?_, fun op => ?_⟩
  · by_cases hsaturated : Saturated operands
    · have hcut : compared (operands 0) (operands 1) = INT_MAX ∧
          compared (operands 1) (operands 0) = INT_MAX := by
        rcases hsaturated with h | h
        · exact compared_of_saturates h
        · exact (compared_of_saturates h).symm
      have hequal (a b : Int) : op.relation a a ↔ op.relation b b := by
        cases op <;> simp [RelationalOperator.relation]
      rw [RelationalCompare_iff h0 h1, hcut.1, hcut.2, hequal INT_MAX (int_value (operands 0))]
      simp only [hsaturated, not_true_eq_false, false_or]
      exact Iff.comm
    · rw [RelationalCompare_iff h0 h1, compared_of_not_saturated h0 h1 hsaturated]
      simp only [hsaturated, not_false_eq_true, true_or]
  · generalize hleft : compared (operands 0) (operands 1) = left
    generalize hright : compared (operands 1) (operands 0) = right
    have hrelation (op : RelationalOperator) : RelationalCompare op operands = true ↔
        op.relation left right := by
      rw [RelationalCompare_iff h0 h1, hleft, hright]
    simp only [hrelation]
    exact RelationalOperator.exactly_one left right
  · have hswapped : RelationalCompare op.mirror (fun i => operands (1 - i)) = true ↔
        op.mirror.relation (compared (operands 1) (operands 0))
          (compared (operands 0) (operands 1)) := RelationalCompare_iff h1 h0 op.mirror
    rw [Bool.eq_iff_iff, hswapped, RelationalCompare_iff h0 h1]
    exact op.relation_mirror _ _

end

section

attribute [local instance] host.platform

/-- Two operands, of any types. -/
def operand_pair (first second : AnyValAndTypeComparePair) : Nat → AnyValAndTypeComparePair :=
  fun i => if i = 0 then first else second

/-- -1 and the largest unsigned integer are compared as integers. -/
theorem RelationalCompare_exact_at_minus_one :
    let operands := operand_pair ⟨-1, VariableTypeCompare._sint⟩ ⟨-1, VariableTypeCompare._uint⟩
    RelationalCompare .LessThan operands = true ↔ (-1 : Int) < 2 ^ 64 - 1 := by
  intro operands
  have hsint : is_integer (operands 0) := .inl rfl
  have huint : is_integer (operands 1) := .inr rfl
  have hexact := (RelationalCompare_exact_iff hsint huint).1 .LessThan
  have hvalues : int_value (operands 0) = -1 ∧ int_value (operands 1) = 2 ^ 64 - 1 := by decide
  rw [hvalues.1, hvalues.2] at hexact
  refine hexact.mpr (.inl ?_)
  rintro (⟨-, hlargest, -⟩ | ⟨hother, -⟩)
  · rw [hvalues.1] at hlargest
    revert hlargest
    decide
  · revert hother
    decide

/-- The largest signed integer is told equal to the next one. -/
theorem RelationalCompare_saturated :
    ¬ ∀ (operands : Nat → AnyValAndTypeComparePair), is_integer (operands 0) →
      is_integer (operands 1) → ∀ op : RelationalOperator, RelationalCompare op operands = true ↔
        op.relation (int_value (operands 0)) (int_value (operands 1)) := by
  intro hexact
  have hequal := (hexact (operand_pair ⟨0x7FFFFFFFFFFFFFFF, VariableTypeCompare._sint⟩
    ⟨0x8000000000000000, VariableTypeCompare._uint⟩) (.inl rfl) (.inr rfl) .Equal).mp (by decide)
  revert hequal
  decide

end

end scrutiny.datalogging.trigger
