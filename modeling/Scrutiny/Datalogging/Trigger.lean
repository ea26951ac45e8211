import Scrutiny.Datalogging.Types

open foundation

namespace scrutiny.datalogging.trigger

/-- The data kept by the condition ChangeMoreThan. -/
structure ConditionSharedData where
  previous_val : AnyTypeCompare
  initialized : Bool
  deriving DecidableEq, Repr

abbrev EvalFn :=
  ConditionSharedData → (Nat → AnyValAndTypeComparePair) → Bool × ConditionSharedData

abbrev ResetFn := ConditionSharedData → ConditionSharedData

structure ActiveCondition where
  eval_fn : EvalFn
  reset_fn : Option ResetFn
  operand_count : uint8_t

inductive RelationalOperator where
  | Equal
  | NotEqual
  | GreaterThan
  | GreaterOrEqualThan
  | LessThan
  | LessOrEqualThan
  deriving DecidableEq, Repr

/-- The template of the source, given equality and the two orders of the type. -/
def apply_relational_op {α : Type} (eq lt le : α → α → Bool) (op : RelationalOperator)
    (arg1 arg2 : α) : Bool :=
  match op with
  | .Equal => eq arg1 arg2
  | .NotEqual => !eq arg1 arg2
  | .GreaterThan => lt arg2 arg1
  | .GreaterOrEqualThan => le arg2 arg1
  | .LessThan => lt arg1 arg2
  | .LessOrEqualThan => le arg1 arg2

def apply_uint (op : RelationalOperator) (arg1 arg2 : uint64_t) : Bool :=
  apply_relational_op (· == ·) BitVec.ult BitVec.ule op arg1 arg2

def apply_sint (op : RelationalOperator) (arg1 arg2 : uint64_t) : Bool :=
  apply_relational_op (· == ·) BitVec.slt BitVec.sle op arg1 arg2

def UINT_2_INT_MAX : uint64_t := (-1 : uint64_t) >>> 1

variable [Platform]

def apply_float (op : RelationalOperator) (arg1 arg2 : uint32_t) : Bool :=
  apply_relational_op Platform.float_unit.eq Platform.float_unit.lt Platform.float_unit.le
    op arg1 arg2

/-- An operand converted to `float`, unless its type is none of the compared ones. -/
def to_float (operand : AnyValAndTypeComparePair) : Option uint32_t :=
  if operand.valtype = VariableTypeCompare._float then some operand.val.uint32
  else if operand.valtype = VariableTypeCompare._sint then
    some (Platform.float_unit.of_sint operand.val)
  else if operand.valtype = VariableTypeCompare._uint then
    some (Platform.float_unit.of_uint operand.val)
  else none

def saturate_to_sint (val : uint64_t) : uint64_t :=
  if val > UINT_2_INT_MAX then UINT_2_INT_MAX else val

def RelationalCompare (op : RelationalOperator) (operands : Nat → AnyValAndTypeComparePair) :
    Bool :=
  let val0 := (operands 0).val
  let val1 := (operands 1).val
  let type0 := (operands 0).valtype
  let type1 := (operands 1).valtype
  if type0 = VariableTypeCompare._float then
    if type1 = VariableTypeCompare._float then apply_float op val0.uint32 val1.uint32
    else if type1 = VariableTypeCompare._sint then
      apply_float op val0.uint32 (Platform.float_unit.of_sint val1)
    else if type1 = VariableTypeCompare._uint then
      apply_float op val0.uint32 (Platform.float_unit.of_uint val1)
    else false
  else if type0 = VariableTypeCompare._sint then
    if type1 = VariableTypeCompare._float then
      apply_float op (Platform.float_unit.of_sint val0) val1.uint32
    else if type1 = VariableTypeCompare._sint then apply_sint op val0 val1
    else if type1 = VariableTypeCompare._uint then apply_sint op val0 (saturate_to_sint val1)
    else false
  else if type0 = VariableTypeCompare._uint then
    if type1 = VariableTypeCompare._float then
      apply_float op (Platform.float_unit.of_uint val0) val1.uint32
    else if type1 = VariableTypeCompare._sint then apply_sint op (saturate_to_sint val0) val1
    else if type1 = VariableTypeCompare._uint then apply_uint op val0 val1
    else false
  else false

/-- The six conditions of two operands that keep no data. -/
def relational_condition (op : RelationalOperator) : ActiveCondition where
  eval_fn := fun data operands => (RelationalCompare op operands, data)
  reset_fn := none
  operand_count := 2

def EqualCondition : ActiveCondition := relational_condition .Equal
def NotEqualCondition : ActiveCondition := relational_condition .NotEqual
def GreaterThanCondition : ActiveCondition := relational_condition .GreaterThan
def GreaterOrEqualThanCondition : ActiveCondition := relational_condition .GreaterOrEqualThan
def LessThanCondition : ActiveCondition := relational_condition .LessThan
def LessOrEqualThanCondition : ActiveCondition := relational_condition .LessOrEqualThan

namespace ChangeMoreThanCondition

def reset (_ : ConditionSharedData) : ConditionSharedData where
  previous_val := 0
  initialized := false

def changed_more_than (data : ConditionSharedData) (delta : uint32_t)
    (operand : AnyValAndTypeComparePair) : Bool :=
  let unit := Platform.float_unit
  let bound := data.previous_val + unit.to_sint delta
  if operand.valtype = VariableTypeCompare._uint then
    if unit.le 0 delta then BitVec.ult bound operand.val else BitVec.ult operand.val bound
  else if operand.valtype = VariableTypeCompare._sint then
    if unit.le 0 delta then BitVec.slt bound operand.val else BitVec.slt operand.val bound
  else if operand.valtype = VariableTypeCompare._float then
    let bound := unit.add data.previous_val._float delta
    if unit.le 0 delta then unit.lt bound operand.val.uint32
    else unit.lt operand.val.uint32 bound
  else false

def evaluate (data : ConditionSharedData) (operands : Nat → AnyValAndTypeComparePair) :
    Bool × ConditionSharedData :=
  match to_float (operands 1) with
  | none => (false, data)
  | some delta =>
    let outval := if data.initialized then changed_more_than data delta (operands 0) else false
    (outval, { previous_val := (operands 0).val, initialized := true })

end ChangeMoreThanCondition

def ChangeMoreThanCondition : ActiveCondition where
  eval_fn := ChangeMoreThanCondition.evaluate
  reset_fn := some ChangeMoreThanCondition.reset
  operand_count := 2

/-- `SCRUTINY_FABS`. -/
def fabs (val : uint32_t) : uint32_t :=
  if Platform.float_unit.lt val 0 then Platform.float_unit.neg val else val

def IsWithinCondition.evaluate (data : ConditionSharedData)
    (operands : Nat → AnyValAndTypeComparePair) : Bool × ConditionSharedData :=
  match to_float (operands 0), to_float (operands 1), to_float (operands 2) with
  | some val0, some val1, some val2 =>
    let diffabs := fabs (Platform.float_unit.sub val0 val1)
    let margin := fabs val2
    (Platform.float_unit.le diffabs margin, data)
  | _, _, _ => (false, data)

def IsWithinCondition : ActiveCondition where
  eval_fn := IsWithinCondition.evaluate
  reset_fn := none
  operand_count := 3

def AlwaysTrueCondition : ActiveCondition where
  eval_fn := fun data _ => (true, data)
  reset_fn := none
  operand_count := 0

/-- In the order of the enumeration of the supported trigger conditions. -/
def CONDITION_CONFIG_LUT : List ActiveCondition :=
  [AlwaysTrueCondition, EqualCondition, NotEqualCondition, LessThanCondition,
    LessOrEqualThanCondition, GreaterThanCondition, GreaterOrEqualThanCondition,
    ChangeMoreThanCondition, IsWithinCondition]

end scrutiny.datalogging.trigger
