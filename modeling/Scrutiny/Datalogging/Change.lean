import Scrutiny.Datalogging.Relational
import Scrutiny.Foundation.BinaryFormat

open foundation

namespace scrutiny

/-- The integers that a `float` holds are computed with exactly. -/
structure FloatUnit.ExactIntegers (unit : FloatUnit) : Prop where
  le : ∀ a b : uint32_t, binary32.finite a.toNat → binary32.finite b.toNat →
    (unit.le a b = true ↔ binary32.value a.toNat ≤ binary32.value b.toNat)
  of_uint : ∀ n : uint64_t, n.toNat ≤ 2 ^ 24 → binary32.Denotes (unit.of_uint n).toNat n.toNat
  of_sint : ∀ n : uint64_t, n.toInt.natAbs ≤ 2 ^ 24 →
    binary32.Denotes (unit.of_sint n).toNat n.toInt
  to_sint : ∀ (a : uint32_t) (n : Int), binary32.Denotes a.toNat n → -2 ^ 63 ≤ n → n < 2 ^ 63 →
    (unit.to_sint a).toInt = n

namespace datalogging.trigger.ChangeMoreThanCondition

/-- An operand whose value is an integer, also as a `float`. -/
def stands_for (operand : AnyValAndTypeComparePair) (n : Int) : Prop :=
  is_integer operand ∧ int_value operand = n ∨
    operand.valtype = VariableTypeCompare._float ∧ binary32.Denotes operand.val.uint32.toNat n

/-- The change that is looked for. -/
def changed_by (delta previous value : Int) : Prop :=
  if 0 ≤ delta then value - previous > delta else value - previous < delta

instance (delta previous value : Int) : Decidable (changed_by delta previous value) :=
  inferInstanceAs (Decidable (if 0 ≤ delta then _ else _))

/-- The integers of a type. -/
def in_range (kind : VariableType) (n : Int) : Prop :=
  if kind = VariableTypeCompare._sint then -2 ^ 63 ≤ n ∧ n < 2 ^ 63 else 0 ≤ n ∧ n < 2 ^ 64

instance (kind : VariableType) (n : Int) : Decidable (in_range kind n) :=
  inferInstanceAs (Decidable (if kind = VariableTypeCompare._sint then _ else _))

section

variable [Platform]

/-- The data before each evaluation of a run that starts with a reset. -/
def data_before (data : ConditionSharedData) (operands : Nat → Nat → AnyValAndTypeComparePair) :
    Nat → ConditionSharedData
  | 0 => reset data
  | n + 1 => (evaluate (data_before data operands n) (operands n)).2

def evaluation (data : ConditionSharedData) (operands : Nat → Nat → AnyValAndTypeComparePair)
    (n : Nat) : Bool :=
  (evaluate (data_before data operands n) (operands n)).1

/-- The sum of the previous value and the threshold, as it is computed. -/
def threshold (previous delta : AnyValAndTypeComparePair) : AnyValAndTypeComparePair :=
  ⟨previous.val + Platform.float_unit.to_sint ((to_float delta).getD 0), previous.valtype⟩

/-- An evaluation follows the definition, with a sum that does not wrap. -/
structure Exact (delta : Int) (previous current : Nat → AnyValAndTypeComparePair)
    (result : Bool) : Prop where
  result : result = true ↔ changed_by delta (int_value (previous 0)) (int_value (current 0))
  sum : int_value (threshold (previous 0) (current 1)) = int_value (previous 0) + delta

end

section

variable [Platform] {delta : Int} {kind : VariableType}

/-- The threshold is read as the integer it stands for. -/
theorem to_float_denotes (hunit : Platform.float_unit.ExactIntegers)
    (hdelta : delta.natAbs ≤ 2 ^ 24) {operand : AnyValAndTypeComparePair}
    (hoperand : stands_for operand delta) :
    ∃ a, to_float operand = some a ∧ binary32.Denotes a.toNat delta := by
  rcases hoperand with ⟨hsint | huint, hvalue⟩ | ⟨hfloat, hdenotes⟩
  · have hint : operand.val.toInt = delta := by
      rwa [int_value, if_pos hsint] at hvalue
    have hdenotes := hunit.of_sint operand.val (by rwa [hint])
    rw [hint] at hdenotes
    refine ⟨_, ?_, hdenotes⟩
    rw [to_float, hsint]
    rfl
  · have hnat : (operand.val.toNat : Int) = delta := by
      rw [int_value, huint] at hvalue
      exact hvalue
    have hdenotes := hunit.of_uint operand.val (by omega)
    rw [hnat] at hdenotes
    refine ⟨_, ?_, hdenotes⟩
    rw [to_float, huint]
    rfl
  · exact ⟨_, by rw [to_float, if_pos hfloat], hdenotes⟩

/-- The sign of the threshold is the sign it is read with. -/
theorem le_zero_iff (hunit : Platform.float_unit.ExactIntegers) {a : uint32_t}
    (hdenotes : binary32.Denotes a.toNat delta) :
    Platform.float_unit.le 0 a = true ↔ 0 ≤ delta := by
  have hzero : binary32.finite (0 : uint32_t).toNat := by decide
  rw [hunit.le 0 a hzero hdenotes.finite]
  exact hdenotes.nonneg_iff

omit [Platform] in
/-- A value is an integer of its type. -/
theorem int_value_in_range (hkind : kind = VariableTypeCompare._uint ∨
    kind = VariableTypeCompare._sint) (val : AnyTypeCompare) :
    in_range kind (int_value ⟨val, kind⟩) := by
  rcases hkind with rfl | rfl
  · change 0 ≤ (val.toNat : Int) ∧ (val.toNat : Int) < 2 ^ 64
    omega
  · change -2 ^ 63 ≤ val.toInt ∧ val.toInt < 2 ^ 63
    exact ⟨val.le_toInt, val.toInt_lt⟩

omit [Platform] in
/-- A sum past an end of the type comes back at the other one. -/
theorem int_value_add (hkind : kind = VariableTypeCompare._uint ∨
    kind = VariableTypeCompare._sint) (hdelta : delta.natAbs ≤ 2 ^ 24) (val : AnyTypeCompare)
    {step : AnyTypeCompare} (hstep : step.toInt = delta) :
    let sum := int_value ⟨val + step, kind⟩
    let exact := int_value ⟨val, kind⟩ + delta
    in_range kind exact ∧ sum = exact ∨
      ¬in_range kind exact ∧ 0 ≤ delta ∧ sum = exact - 2 ^ 64 ∨
      ¬in_range kind exact ∧ delta < 0 ∧ sum = exact + 2 ^ 64 := by
  subst hstep
  have hval := val.isLt
  have hstep := step.isLt
  rw [BitVec.toInt_eq_toNat_cond] at hdelta
  rcases hkind with rfl | rfl
  · have hunsigned (x : AnyTypeCompare) :
        int_value ⟨x, VariableTypeCompare._uint⟩ = x.toNat := rfl
    have hrange (n : Int) : in_range VariableTypeCompare._uint n ↔ 0 ≤ n ∧ n < 2 ^ 64 := Iff.rfl
    simp only [hunsigned, hrange, BitVec.toNat_add, BitVec.toInt_eq_toNat_cond]
    omega
  · have hsigned (x : AnyTypeCompare) :
        int_value ⟨x, VariableTypeCompare._sint⟩ = x.toInt := rfl
    have hrange (n : Int) : in_range VariableTypeCompare._sint n ↔ -2 ^ 63 ≤ n ∧ n < 2 ^ 63 :=
      Iff.rfl
    simp only [hsigned, hrange, BitVec.toNat_add, BitVec.toInt_eq_toNat_cond]
    omega

omit [Platform] in
/-- A comparison with a sum that wrapped is right only when the value crosses with it. -/
theorem comparison_exact (hkind : kind = VariableTypeCompare._uint ∨
    kind = VariableTypeCompare._sint) {previous current sum : Int}
    (hcurrent : in_range kind current)
    (hsum : in_range kind (previous + delta) ∧ sum = previous + delta ∨
      ¬in_range kind (previous + delta) ∧ 0 ≤ delta ∧ sum = previous + delta - 2 ^ 64 ∨
      ¬in_range kind (previous + delta) ∧ delta < 0 ∧ sum = previous + delta + 2 ^ 64)
    (hprevious : in_range kind previous) :
    let result := if 0 ≤ delta then sum < current else current < sum
    ((result ↔ changed_by delta previous current) ∧ sum = previous + delta ↔
        in_range kind (previous + delta)) ∧
      ((result ↔ changed_by delta previous current) ↔
        in_range kind (previous + delta) ∨
          0 ≤ delta ∧ current + 2 ^ 64 ≤ previous + delta ∨
          delta < 0 ∧ previous + delta + 2 ^ 64 ≤ current) := by
  have hunsigned (n : Int) : in_range VariableTypeCompare._uint n ↔ 0 ≤ n ∧ n < 2 ^ 64 := Iff.rfl
  have hsigned (n : Int) : in_range VariableTypeCompare._sint n ↔ -2 ^ 63 ≤ n ∧ n < 2 ^ 63 :=
    Iff.rfl
  simp only [changed_by]
  by_cases hpos : 0 ≤ delta
  · simp only [if_pos hpos]
    rcases hkind with rfl | rfl
    · simp only [hunsigned] at *
      omega
    · simp only [hsigned] at *
      omega
  · simp only [if_neg hpos]
    rcases hkind with rfl | rfl
    · simp only [hunsigned] at *
      omega
    · simp only [hsigned] at *
      omega

/-- The condition compares with the sum that it computes. -/
theorem changed_more_than_iff (hunit : Platform.float_unit.ExactIntegers)
    (hkind : kind = VariableTypeCompare._uint ∨ kind = VariableTypeCompare._sint)
    {a : uint32_t} (hdenotes : binary32.Denotes a.toNat delta) (data : ConditionSharedData)
    (val : AnyTypeCompare) :
    changed_more_than data a ⟨val, kind⟩ = true ↔
      let sum := int_value ⟨data.previous_val + Platform.float_unit.to_sint a, kind⟩
      if 0 ≤ delta then sum < int_value ⟨val, kind⟩ else int_value ⟨val, kind⟩ < sum := by
  have hsign := le_zero_iff hunit hdenotes
  rcases hkind with rfl | rfl
  · have huint : changed_more_than data a ⟨val, VariableTypeCompare._uint⟩ =
        if Platform.float_unit.le 0 a then
          BitVec.ult (data.previous_val + Platform.float_unit.to_sint a) val
        else BitVec.ult val (data.previous_val + Platform.float_unit.to_sint a) := rfl
    by_cases hpos : 0 ≤ delta
    · rw [huint, if_pos (hsign.mpr hpos), if_pos hpos, BitVec.ult_iff_toNat_lt]
      exact Int.ofNat_lt.symm
    · rw [huint, if_neg (hpos ∘ hsign.mp), if_neg hpos, BitVec.ult_iff_toNat_lt]
      exact Int.ofNat_lt.symm
  · have hsint : changed_more_than data a ⟨val, VariableTypeCompare._sint⟩ =
        if Platform.float_unit.le 0 a then
          BitVec.slt (data.previous_val + Platform.float_unit.to_sint a) val
        else BitVec.slt val (data.previous_val + Platform.float_unit.to_sint a) := rfl
    by_cases hpos : 0 ≤ delta
    · rw [hsint, if_pos (hsign.mpr hpos), if_pos hpos, BitVec.slt_iff_toInt_lt]
      exact Iff.rfl
    · rw [hsint, if_neg (hpos ∘ hsign.mp), if_neg hpos, BitVec.slt_iff_toInt_lt]
      exact Iff.rfl

/-- An evaluation that is not the first compares with the operand of the one before. -/
theorem evaluation_succ (data : ConditionSharedData)
    {operands : Nat → Nat → AnyValAndTypeComparePair} {n : Nat} {previous_delta a : uint32_t}
    (hbefore : to_float (operands n 1) = some previous_delta)
    (hdelta : to_float (operands (n + 1) 1) = some a) :
    evaluation data operands (n + 1) =
      changed_more_than ⟨(operands n 0).val, true⟩ a (operands (n + 1) 0) := by
  have hdata : data_before data operands (n + 1) = ⟨(operands n 0).val, true⟩ := by
    rw [data_before, evaluate, hbefore]
  rw [evaluation, hdata, evaluate, hdelta]
  rfl

theorem evaluation_zero (data : ConditionSharedData)
    (operands : Nat → Nat → AnyValAndTypeComparePair) : evaluation data operands 0 = false := by
  rw [evaluation, data_before, reset, evaluate]
  cases to_float (operands 0 1) <;> rfl

/-- Over a run on integers, the first evaluation is false, and each other one follows the
definition, with no wrapping, exactly when the previous value plus the threshold is in the range of
the type. A result is also right when the value crosses from one end of the range to the other. -/
theorem evaluate_exact_iff (hunit : Platform.float_unit.ExactIntegers)
    (hkind : kind = VariableTypeCompare._uint ∨ kind = VariableTypeCompare._sint)
    (hdelta : delta.natAbs ≤ 2 ^ 24) (data : ConditionSharedData)
    (operands : Nat → Nat → AnyValAndTypeComparePair)
    (hvalues : ∀ n, (operands n 0).valtype = kind) (hdeltas : ∀ n, stands_for (operands n 1) delta) :
    evaluation data operands 0 = false ∧ ∀ n,
      let previous := int_value (operands n 0)
      let current := int_value (operands (n + 1) 0)
      let result := evaluation data operands (n + 1)
      (Exact delta (operands n) (operands (n + 1)) result ↔ in_range kind (previous + delta)) ∧
      ((result = true ↔ changed_by delta previous current) ↔
        in_range kind (previous + delta) ∨
          0 ≤ delta ∧ current + 2 ^ 64 ≤ previous + delta ∨
          delta < 0 ∧ previous + delta + 2 ^ 64 ≤ current) := by
  refine ⟨evaluation_zero data operands, ?_⟩
  intro n previous current result
  obtain ⟨previous_delta, hbefore, -⟩ := to_float_denotes hunit hdelta (hdeltas n)
  obtain ⟨a, ha, hdenotes⟩ := to_float_denotes hunit hdelta (hdeltas (n + 1))
  have hstep := hunit.to_sint a delta hdenotes (by omega) (by omega)
  have hpair (m : Nat) : operands m 0 = ⟨(operands m 0).val, kind⟩ := by
    rw [← hvalues m]
  have hthreshold : threshold (operands n 0) (operands (n + 1) 1) =
      ⟨(operands n 0).val + Platform.float_unit.to_sint a, kind⟩ := by
    rw [threshold, ha, hvalues n]
    rfl
  have hresult : result = true ↔
      if 0 ≤ delta then int_value (threshold (operands n 0) (operands (n + 1) 1)) < current
      else current < int_value (threshold (operands n 0) (operands (n + 1) 1)) := by
    have hcompares := changed_more_than_iff hunit hkind hdenotes ⟨(operands n 0).val, true⟩
      (operands (n + 1) 0).val
    rwa [← hpair (n + 1), ← evaluation_succ data hbefore ha, ← hthreshold] at hcompares
  have hsum := int_value_add hkind hdelta (operands n 0).val hstep
  rw [← hpair n, ← hthreshold] at hsum
  have hrange (m : Nat) := int_value_in_range hkind (operands m 0).val
  simp only [← hpair] at hrange
  obtain ⟨hexact, hright⟩ := comparison_exact hkind (hrange (n + 1)) hsum (hrange n)
  rw [← hresult] at hexact hright
  exact ⟨⟨fun h => hexact.mp ⟨h.result, h.sum⟩, fun h => ⟨(hexact.mpr h).1, (hexact.mpr h).2⟩⟩,
    hright⟩

end

section

/-- A unit that computes exactly with the integers that a `float` holds. -/
def binary32_unit : FloatUnit :=
  { host.float_unit with
    le := fun a b => decide (¬binary32.nan a.toNat ∧ ¬binary32.nan b.toNat ∧
      binary32.value a.toNat ≤ binary32.value b.toNat)
    of_uint := fun n => BitVec.ofNat 32 (binary32.of_int n.toNat)
    of_sint := fun n => BitVec.ofNat 32 (binary32.of_int n.toInt)
    to_sint := fun a => BitVec.ofInt 64 ((binary32.value a.toNat).tdiv binary32.scale) }

theorem binary32_unit_denotes {n : Int} (hn : n.natAbs ≤ 2 ^ 24) :
    binary32.Denotes (BitVec.ofNat 32 (binary32.of_int n)).toNat n := by
  have hroom : binary32.fraction_bits + 1 ≤ binary32.bias := by decide
  have hfits : binary32.of_int n < 2 ^ 32 := BinaryFormat.of_int_lt hroom hn
  rw [BitVec.toNat_ofNat, Nat.mod_eq_of_lt hfits]
  exact BinaryFormat.denotes_of_int hroom hn

theorem binary32_unit_exact : binary32_unit.ExactIntegers where
  le := by
    intro a b ha hb
    have hnumber {code : Nat} (h : binary32.finite code) : ¬binary32.nan code := fun hnan =>
      hnan.1 h
    exact ⟨fun h => (of_decide_eq_true h).2.2,
      fun h => decide_eq_true ⟨hnumber ha, hnumber hb, h⟩⟩
  of_uint := fun n hn => binary32_unit_denotes (by omega)
  of_sint := fun n hn => binary32_unit_denotes hn
  to_sint := by
    intro a n hdenotes hlow hhigh
    have hscale : (binary32.scale : Int) ≠ 0 := Int.natCast_ne_zero.mpr binary32.scale_pos.ne'
    change (BitVec.ofInt 64 ((binary32.value a.toNat).tdiv binary32.scale)).toInt = n
    rw [hdenotes.value, Int.mul_tdiv_cancel n hscale]
    exact BitVec.toInt_ofInt_eq_self (by decide) hlow hhigh

@[reducible] def binary32_platform : Platform := { host.platform with float_unit := binary32_unit }

attribute [local instance] binary32_platform

/-- A run of unsigned values, with a threshold that is signed. -/
def unsigned_run (delta : Int) (values : List Nat) (n i : Nat) : AnyValAndTypeComparePair :=
  if i = 0 then ⟨BitVec.ofNat 64 (values.getD n 0), VariableTypeCompare._uint⟩
  else ⟨BitVec.ofInt 64 delta, VariableTypeCompare._sint⟩

/-- A value that does not change is found to decrease by more than one. -/
theorem unchanged_value_decreases :
    Platform.float_unit.ExactIntegers ∧
      (∀ n, (unsigned_run (-1) [0, 0] n 0).valtype = VariableTypeCompare._uint ∧
        stands_for (unsigned_run (-1) [0, 0] n 1) (-1)) ∧
      ¬(evaluation ⟨0, false⟩ (unsigned_run (-1) [0, 0]) 1 = true ↔
        changed_by (-1) (int_value (unsigned_run (-1) [0, 0] 0 0))
          (int_value (unsigned_run (-1) [0, 0] 1 0))) :=
  ⟨binary32_unit_exact, fun _ => ⟨rfl, .inl ⟨.inl rfl, rfl⟩⟩, by decide +kernel⟩

/-- From 10 to 12 and on to 20, with a change of more than 5 looked for. -/
theorem change_more_than_five :
    evaluation ⟨0, false⟩ (unsigned_run 5 [10, 12, 20]) 0 = false ∧
      Exact 5 (unsigned_run 5 [10, 12, 20] 1) (unsigned_run 5 [10, 12, 20] 2)
        (evaluation ⟨0, false⟩ (unsigned_run 5 [10, 12, 20]) 2) := by
  have hexact := evaluate_exact_iff binary32_unit_exact (.inl rfl)
    (by decide : (5 : Int).natAbs ≤ 2 ^ 24) ⟨0, false⟩ (unsigned_run 5 [10, 12, 20])
    (fun _ => rfl) (fun _ => .inl ⟨.inl rfl, rfl⟩)
  exact ⟨hexact.1, (hexact.2 1).1.mpr (by decide)⟩

end

end datalogging.trigger.ChangeMoreThanCondition

end scrutiny
