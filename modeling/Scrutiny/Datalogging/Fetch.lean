import Scrutiny.Datalogging.Types

open foundation

namespace scrutiny

namespace MainHandler

variable [Platform]

/-- `memcpy` over the first bytes of the union. -/
def overlay (val : AnyType) : Nat → List uint8_t → AnyType
  | _, [] => val
  | position, byte :: bytes =>
    overlay ((val &&& ~~~((0xFF#64) <<< (8 * position))) ||| byte.setWidth 64 <<< (8 * position))
      (position + 1) bytes

def fetch_variable (addr : Nat) (variable_type : VariableType) (val : AnyType) (memory : Memory) :
    (Bool × AnyType) × Memory :=
  let typesize_char := tools.get_type_size_8bits variable_type / 1
  if typesize_char = 0 ∨ typesize_char > 8 then ((false, val), memory)
  else
    let (bytes, memory) := memory.copy_out addr typesize_char.toNat
    ((true, overlay val 0 bytes), memory)

/-- Shifts the member of the size fetched; other sizes are not supported. -/
def shift_bitfield (val : AnyType) (fetch_type_size : VariableTypeSize) (bitoffset : uint8_t) :
    Option AnyType :=
  if fetch_type_size = VariableTypeSize._8 then
    some (val.set_uint8 (val.uint8 >>> bitoffset.toNat))
  else if fetch_type_size = VariableTypeSize._16 then
    some (val.set_uint16 (val.uint16 >>> bitoffset.toNat))
  else if fetch_type_size = VariableTypeSize._32 then
    some (val.set_uint32 (val.uint32 >>> bitoffset.toNat))
  else if fetch_type_size = VariableTypeSize._64 then some (val >>> bitoffset.toNat)
  else none

/-- Masks a member of `w` bits to `bitsize` bits, with sign extension for `_sint`. -/
def mask_bitfield {w : Nat} (val : BitVec w) (var_tt : VariableTypeType) (bitsize : uint8_t) :
    BitVec w :=
  let mask : BitVec w :=
    if bitsize.toNat < w then ((1 : BitVec w) <<< bitsize.toNat) - 1 else BitVec.allOnes w
  let val := val &&& mask
  if var_tt = VariableTypeType._sint ∧ val >>> (bitsize.toNat - 1) ≠ 0 then val ||| ~~~mask
  else val

def extract_bitfield (val : AnyType) (var_tt : VariableTypeType)
    (output_type_size : VariableTypeSize) (bitsize : uint8_t) : Option AnyType :=
  if output_type_size = VariableTypeSize._8 then
    some (val.set_uint8 (mask_bitfield val.uint8 var_tt bitsize))
  else if output_type_size = VariableTypeSize._16 then
    some (val.set_uint16 (mask_bitfield val.uint16 var_tt bitsize))
  else if output_type_size = VariableTypeSize._32 then
    some (val.set_uint32 (mask_bitfield val.uint32 var_tt bitsize))
  else if output_type_size = VariableTypeSize._64 then some (mask_bitfield val var_tt bitsize)
  else none

/-- The number of bytes that hold a number of bits, in the arithmetic of the source:
the sum is made on `int` and the result is a `uint_fast8_t`. -/
def required_size (bits : Nat) : uint8_t :=
  (((BitVec.ofNat 32 bits - 1).sshiftRight 3) + 1).setWidth 8

def fetch_variable_bitfield (addr : Nat) (var_tt : VariableTypeType) (bitoffset bitsize : uint8_t)
    (pair : AnyValAndTypePair) (memory : Memory) : (Bool × AnyValAndTypePair) × Memory :=
  let fetch_required_size := required_size (bitoffset.toNat + bitsize.toNat)
  let output_required_size := required_size bitsize.toNat
  let fetch_type_size := tools.get_required_type_size_8bits fetch_required_size
  let output_type_size := tools.get_required_type_size_8bits output_required_size
  let fetch_variable_type := tools.make_type VariableTypeType._uint fetch_type_size
  let output_variable_type := tools.make_type var_tt output_type_size
  if bitsize = 0 then ((false, ⟨0, VariableType.unknown⟩), memory)
  else if var_tt = VariableTypeType._sint ∨ var_tt = VariableTypeType._uint ∨
      var_tt = VariableTypeType._boolean then
    let ((success, val), memory) := fetch_variable addr fetch_variable_type pair.val memory
    let extracted := if success then
        (shift_bitfield val fetch_type_size bitoffset).bind fun val =>
          extract_bitfield val var_tt output_type_size bitsize
      else none
    match extracted with
    | some val => ((true, ⟨val, output_variable_type⟩), memory)
    | none => ((false, ⟨0, VariableType.unknown⟩), memory)
  else
    -- No conversion is made for the other kinds.
    ((true, ⟨pair.val, output_variable_type⟩), memory)

end MainHandler

namespace datalogging

variable [Platform]

/-- Reads the bytes of the union that make a `bool`. -/
def boolean_value (val : AnyType) : uint64_t :=
  if val.toNat % 2 ^ (8 * tools.get_platform_boolean_size_8bits.toNat) = 0 then 0 else 1

def convert_to_compare_type (pair : AnyValAndTypePair) : AnyValAndTypePair :=
  if pair.valtype = VariableType.float64 then
    ⟨pair.val.set_uint32 (Platform.float_unit.of_double pair.val), VariableType.float32⟩
  else if pair.valtype = VariableType.boolean8 ∨ pair.valtype = VariableType.boolean16 ∨
      pair.valtype = VariableType.boolean32 ∨ pair.valtype = VariableType.boolean64 ∨
      pair.valtype = VariableType.boolean then
    ⟨boolean_value pair.val, VariableTypeCompare._uint⟩
  else if pair.valtype = VariableType.sint8 then
    ⟨pair.val.uint8.signExtend 64, VariableTypeCompare._sint⟩
  else if pair.valtype = VariableType.sint16 then
    ⟨pair.val.uint16.signExtend 64, VariableTypeCompare._sint⟩
  else if pair.valtype = VariableType.sint32 then
    ⟨pair.val.uint32.signExtend 64, VariableTypeCompare._sint⟩
  else if pair.valtype = VariableType.uint8 then
    ⟨pair.val.uint8.setWidth 64, VariableTypeCompare._uint⟩
  else if pair.valtype = VariableType.uint16 then
    ⟨pair.val.uint16.setWidth 64, VariableTypeCompare._uint⟩
  else if pair.valtype = VariableType.uint32 then
    ⟨pair.val.uint32.setWidth 64, VariableTypeCompare._uint⟩
  else pair

def fetch_operand (handler : Config) (operand : Operand) (pair : AnyValAndTypePair)
    (caller : Option LoopId) (memory : Memory) : (Bool × AnyValAndTypePair) × Memory :=
  let ((success, pair), memory) : (Bool × AnyValAndTypePair) × Memory :=
    if operand.type = OperandType.Literal then
      ((true, ⟨pair.val.set_uint32 operand.val, VariableType.float32⟩), memory)
    else if operand.type = OperandType.Rpv then
      -- Found, as the configuration was validated.
      let rpv := (MainHandler.get_rpv handler operand.id).getD ⟨operand.id, VariableType.unknown⟩
      let ((success, val), memory) := MainHandler.read_rpv handler rpv caller memory
      ((success, ⟨val, rpv.type⟩), memory)
    else if operand.type = OperandType.Var then
      let ((success, val), memory) :=
        MainHandler.fetch_variable operand.addr operand.datatype pair.val memory
      ((success, ⟨val, operand.datatype⟩), memory)
    else if operand.type = OperandType.VarBit then
      MainHandler.fetch_variable_bitfield operand.addr (tools.get_var_type_type operand.datatype)
        operand.bitoffset operand.bitsize pair memory
    else ((false, pair), memory)
  if success then ((true, pair), memory) else ((false, ⟨0, VariableType.float32⟩), memory)

end datalogging

end scrutiny
