import Scrutiny.Foundation.Format
import Scrutiny.Protocol.DatalogCodec
import Scrutiny.Protocol.Wire

open foundation

namespace scrutiny

namespace codecs

def uint16_format : Format uint8_t uint16_t where
  encode := encode_16_bits_big_endian_8bits
  read buffer position := some (decode_16_bits_big_endian_8bits (buffer.shift position))
  slice_iff buffer position value := by
    have hslice := slice_eq_encode_16_iff (buffer.shift position) value
    rw [Buffer.slice_shift, Nat.add_zero] at hslice
    rw [Option.some.injEq]
    exact hslice

def uint32_format : Format uint8_t uint32_t where
  encode := encode_32_bits_big_endian_8bits
  read buffer position := some (decode_32_bits_big_endian_8bits (buffer.shift position))
  slice_iff buffer position value := by
    have hslice := slice_eq_encode_32_iff (buffer.shift position) value
    rw [Buffer.slice_shift, Nat.add_zero] at hslice
    rw [Option.some.injEq]
    exact hslice

section

variable [Platform]

/-- The addresses that a pointer has. -/
abbrev Address : Type := { addr : Nat // addr < address_space }

/-- The address that is decoded at a position. -/
def address_at (buffer : ByteBuffer) (position : Nat) : Address :=
  ⟨decode_address_big_endian_8bits (buffer.shift position), decode_address_shift_lt buffer position⟩

def address_format : Format uint8_t Address where
  encode addr := encode_address_big_endian_8bits addr.val
  read buffer position := some (address_at buffer position)
  slice_iff buffer position addr := by
    have hslice := slice_eq_encode_address_iff (buffer.shift position) addr.property
    rw [Buffer.slice_shift, Nat.add_zero] at hslice
    rw [length_encode_address, hslice, Option.some.injEq, Subtype.ext_iff]
    rfl

@[simp] theorem length_address_format (addr : Address) :
    (address_format.encode addr).length = Platform.addr_size := length_encode_address _

end

end codecs

namespace datalogging

open codecs

variable [Platform]

/-- What an operand says, whatever else is in the union. -/
inductive OperandContent where
  | Literal (val : uint32_t)
  | Var (datatype : VariableType) (addr : Address)
  | VarBit (datatype : VariableType) (addr : Address) (bitoffset bitsize : uint8_t)
  | Rpv (id : uint16_t)

namespace OperandContent

def var_format : Format uint8_t (VariableType × Address) := Format.cell.pair address_format

def varbit_format : Format uint8_t (VariableType × Address × uint8_t × uint8_t) :=
  Format.cell.pair (address_format.pair (Format.cell.pair Format.cell))

theorem read_varbit (buffer : ByteBuffer) (position : Nat) :
    varbit_format.read buffer position = some (buffer position, address_at buffer (position + 1),
      buffer (position + 1 + Platform.addr_size),
      buffer (position + 1 + Platform.addr_size + 1)) := by
  simp [varbit_format, Format.pair, Format.cell, address_format]

/-- The type comes first. -/
def format : Format uint8_t OperandContent where
  encode
    | Literal val => OperandType.Literal :: uint32_format.encode val
    | Var datatype addr => OperandType.Var :: var_format.encode (datatype, addr)
    | VarBit datatype addr bitoffset bitsize =>
      OperandType.VarBit :: varbit_format.encode (datatype, addr, bitoffset, bitsize)
    | Rpv id => OperandType.Rpv :: uint16_format.encode id
  read buffer position :=
    if buffer position = OperandType.Literal then
      (uint32_format.read buffer (position + 1)).map Literal
    else if buffer position = OperandType.Rpv then
      (uint16_format.read buffer (position + 1)).map Rpv
    else if buffer position = OperandType.Var then
      (var_format.read buffer (position + 1)).map fun content => Var content.1 content.2
    else if buffer position = OperandType.VarBit then
      (varbit_format.read buffer (position + 1)).map fun content =>
        VarBit content.1 content.2.1 content.2.2.1 content.2.2.2
    else none
  slice_iff buffer position value := by
    cases value <;> rw [Format.slice_tagged_iff]
    all_goals
      constructor
      · rintro ⟨htag, hread⟩
        rw [htag, hread]
        rfl
      · intro hread
        split_ifs at hread with hliteral hrpv hvar hvarbit
        all_goals
          obtain ⟨content, hcontent, heq⟩ := Option.map_eq_some_iff.mp hread
          cases heq <;> exact ⟨by assumption, hcontent⟩

theorem length_encode_le (value : OperandContent) : (format.encode value).length ≤ 12 := by
  have haddress : Platform.addr_size ≤ 8 := by
    rcases Platform.addr_size_supported with h | h | h | h <;> omega
  cases value <;>
    simp [format, var_format, varbit_format, Format.pair, Format.cell, uint16_format,
      uint32_format, encode_32_bits_big_endian_8bits] <;>
    omega

end OperandContent

/-- What a loggable item says, whatever else is in the union. -/
inductive ItemContent where
  | Memory (address : Address) (size : uint8_t)
  | Rpv (id : uint16_t)
  | Time

namespace ItemContent

def memory_format : Format uint8_t (Address × uint8_t) := address_format.pair Format.cell

theorem read_memory (buffer : ByteBuffer) (position : Nat) :
    memory_format.read buffer position = some (address_at buffer position,
      buffer (position + Platform.addr_size)) := by
  simp [memory_format, Format.pair, Format.cell, address_format]

/-- The type comes first. -/
def format : Format uint8_t ItemContent where
  encode
    | Memory address size => LoggableType.Memory :: memory_format.encode (address, size)
    | Rpv id => LoggableType.Rpv :: uint16_format.encode id
    | Time => LoggableType.Time :: Format.empty.encode ()
  read buffer position :=
    if buffer position = LoggableType.Memory then
      (memory_format.read buffer (position + 1)).map fun content => Memory content.1 content.2
    else if buffer position = LoggableType.Rpv then
      (uint16_format.read buffer (position + 1)).map Rpv
    else if buffer position = LoggableType.Time then
      (Format.empty.read buffer (position + 1)).map fun _ => Time
    else none
  slice_iff buffer position value := by
    cases value <;> rw [Format.slice_tagged_iff]
    all_goals
      constructor
      · rintro ⟨htag, hread⟩
        rw [htag, hread]
        rfl
      · intro hread
        split_ifs at hread with hmemory hrpv htime
        all_goals
          obtain ⟨content, hcontent, heq⟩ := Option.map_eq_some_iff.mp hread
          cases heq <;> exact ⟨by assumption, hcontent⟩

theorem length_encode_le (value : ItemContent) : (format.encode value).length ≤ 10 := by
  have haddress : Platform.addr_size ≤ 8 := by
    rcases Platform.addr_size_supported with h | h | h | h <;> omega
  cases value <;>
    simp [format, memory_format, Format.pair, Format.cell, Format.empty, uint16_format]
  omega

end ItemContent

/-- The members of the union that its type says are read. -/
def Operand.Holds (operand : Operand) : OperandContent → Prop
  | .Literal val => operand.type = OperandType.Literal ∧ operand.val = val
  | .Var datatype addr =>
    operand.type = OperandType.Var ∧ operand.datatype = datatype ∧ operand.addr = addr
  | .VarBit datatype addr bitoffset bitsize =>
    operand.type = OperandType.VarBit ∧ operand.datatype = datatype ∧ operand.addr = addr ∧
      operand.bitoffset = bitoffset ∧ operand.bitsize = bitsize
  | .Rpv id => operand.type = OperandType.Rpv ∧ operand.id = id

/-- The members of the union that its type says are read. -/
def LoggableItem.Holds (item : LoggableItem) : ItemContent → Prop
  | .Memory address size =>
    item.type = LoggableType.Memory ∧ item.address = address ∧ item.size = size
  | .Rpv id => item.type = LoggableType.Rpv ∧ item.id = id
  | .Time => item.type = LoggableType.Time

end datalogging

namespace protocol

open codecs datalogging

/-- The fields of fixed position, without the number of operands. -/
structure ConfigureHeader where
  loop_id : uint8_t
  config_id : uint16_t
  decimation : uint16_t
  probe_location : uint8_t
  timeout_100ns : uint32_t
  condition : uint8_t
  hold_time_100ns : uint32_t

namespace ConfigureHeader

/-- The fields in the order they are sent. -/
def equiv :
    uint8_t × uint16_t × uint16_t × uint8_t × uint32_t × uint8_t × uint32_t ≃
      ConfigureHeader where
  toFun := fun (loop_id, config_id, decimation, probe_location, timeout, condition, hold_time) =>
    ⟨loop_id, config_id, decimation, probe_location, timeout, condition, hold_time⟩
  invFun header := (header.loop_id, header.config_id, header.decimation, header.probe_location,
    header.timeout_100ns, header.condition, header.hold_time_100ns)
  left_inv _ := rfl
  right_inv _ := rfl

def format : Format uint8_t ConfigureHeader :=
  (Format.cell.pair (uint16_format.pair (uint16_format.pair (Format.cell.pair
    (uint32_format.pair (Format.cell.pair uint32_format)))))).of_equiv equiv

theorem read_format (buffer : ByteBuffer) :
    format.read buffer 0 = some {
      loop_id := buffer 0
      config_id := decode_16_bits_big_endian_8bits (buffer.shift 1)
      decimation := decode_16_bits_big_endian_8bits (buffer.shift 3)
      probe_location := buffer 5
      timeout_100ns := decode_32_bits_big_endian_8bits (buffer.shift 6)
      condition := buffer 10
      hold_time_100ns := decode_32_bits_big_endian_8bits (buffer.shift 11) } := rfl

@[simp] theorem length_encode (header : ConfigureHeader) :
    (format.encode header).length = 15 := rfl

end ConfigureHeader

variable [Platform]

/-- A request to configure the datalogger, as it is meant. -/
structure ConfigureRequest where
  header : ConfigureHeader
  operands : List OperandContent
  items : List ItemContent
  operands_max : operands.length ≤ MAX_OPERANDS
  items_max : items.length ≤ Platform.datalogging_max_signal.toNat

namespace ConfigureRequest

/-- The operands and the items come after their number. -/
def encode (request : ConfigureRequest) : List uint8_t :=
  ConfigureHeader.format.encode request.header ++
    BitVec.ofNat 8 request.operands.length ::
      (request.operands.flatMap OperandContent.format.encode ++
        BitVec.ofNat 8 request.items.length :: request.items.flatMap ItemContent.format.encode)

/-- A request can carry any of them. -/
theorem length_encode_lt (request : ConfigureRequest) : request.encode.length < 2 ^ 16 := by
  have hoperands := Format.length_flatMap_le OperandContent.format
    OperandContent.length_encode_le request.operands
  have hitems := Format.length_flatMap_le ItemContent.format
    ItemContent.length_encode_le request.items
  have hoperands_max : request.operands.length ≤ 3 := request.operands_max
  have hitems_max := request.items_max
  have hsignal := Platform.datalogging_max_signal.isLt
  simp only [encode, List.length_append, List.length_cons, ConfigureHeader.length_encode]
  omega

end ConfigureRequest

end protocol

namespace datalogging

variable [Platform]

/-- A configuration with the fields of a request, its operands and its items. -/
structure Configuration.Holds (config : Configuration) (content : protocol.ConfigureRequest) :
    Prop where
  decimation : config.decimation = content.header.decimation
  probe_location : config.probe_location = content.header.probe_location
  timeout_100ns : config.timeout_100ns = content.header.timeout_100ns
  condition : config.trigger.condition = content.header.condition
  hold_time_100ns : config.trigger.hold_time_100ns = content.header.hold_time_100ns
  operands : List.Forall₂ Operand.Holds config.operand_list content.operands
  items : List.Forall₂ LoggableItem.Holds config.item_list content.items

end datalogging

end scrutiny
