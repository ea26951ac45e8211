import Scrutiny.Config

open foundation

namespace scrutiny.datalogging

def MAX_OPERANDS : Nat := 3

/-- `BiggestUint` names an enumerator, and its enumeration is stored in one byte. -/
def sizeof_BiggestUint : Nat := 1

def EncodingType.RAW : uint8_t := 0

/-- The union of the biggest integers and `float`, as its raw content. -/
abbrev AnyTypeCompare := uint64_t

def AnyTypeCompare._float (val : AnyTypeCompare) : uint32_t := val.setWidth 32

namespace VariableTypeCompare

def _float : VariableType := VariableType.float32
def _uint : VariableType := VariableType.uint64
def _sint : VariableType := VariableType.sint64

end VariableTypeCompare

/-- The source reads the pairs filled in as `AnyValAndTypePair` under this type. -/
abbrev AnyValAndTypeComparePair := AnyValAndTypePair

namespace OperandType

def Literal : uint8_t := 0
def Var : uint8_t := 1
def VarBit : uint8_t := 2
def Rpv : uint8_t := 3

end OperandType

/-- The members of the union side by side: the operand type says which are read,
and they are written with it. -/
structure Operand where
  type : uint8_t
  val : uint32_t
  addr : Nat
  datatype : VariableType
  bitoffset : uint8_t
  bitsize : uint8_t
  id : uint16_t
  deriving DecidableEq, Repr

structure TriggerConfig where
  operands : Nat → Operand
  hold_time_100ns : uint32_t
  operand_count : uint8_t
  condition : uint8_t

namespace LoggableType

def Memory : uint8_t := 0
def Rpv : uint8_t := 1
def Time : uint8_t := 2

end LoggableType

/-- A union in the source, laid out as `Operand` is. -/
structure LoggableItem where
  type : uint8_t
  address : Nat
  size : uint8_t
  id : uint16_t
  deriving DecidableEq, Repr

structure Configuration where
  items_to_log : Nat → LoggableItem
  trigger : TriggerConfig
  timeout_100ns : uint32_t
  decimation : uint16_t
  items_count : uint8_t
  probe_location : uint8_t

namespace Configuration

/-- The operands in use. -/
def operand_list (self : Configuration) : List Operand :=
  (List.range self.trigger.operand_count.toNat).map self.trigger.operands

/-- The items in use. -/
def item_list (self : Configuration) : List LoggableItem :=
  (List.range self.items_count.toNat).map self.items_to_log

end Configuration

end scrutiny.datalogging
