import Scrutiny.Host
import Scrutiny.Protocol.Grammar

open foundation

namespace scrutiny.protocol

open codecs datalogging

section

variable [Platform]

namespace CodecV1_0

/-- An operand is decoded as its type says. -/
theorem decode_operand_decodes (request : Request) (position : Nat) (operand : Operand) :
    OperandContent.format.Decodes request.data request.data_length.toNat position Operand.Holds
      (decode_operand request (position + 1) { operand with type := request.data position }) := by
  unfold decode_operand
  simp only
  split
  · rename_i htype
    have hread : OperandContent.format.read request.data position = some (.Literal _) :=
      if_pos htype
    exact Format.decodes_of_read _ hread rfl ⟨htype, rfl⟩
  · rename_i hliteral
    split
    · rename_i htype
      have hread : OperandContent.format.read request.data position = some (.Rpv _) :=
        (if_neg hliteral).trans (if_pos htype)
      exact Format.decodes_of_read _ hread rfl ⟨htype, rfl⟩
    · rename_i hrpv
      split
      · rename_i htype
        have hread : OperandContent.format.read request.data position = some (.Var
            (request.data (position + 1)) (address_at request.data (position + 1 + 1))) :=
          (if_neg hliteral).trans ((if_neg hrpv).trans (if_pos htype))
        refine Format.decodes_of_read _ hread ?_ ⟨htype, rfl, rfl⟩
        simp [OperandContent.format, OperandContent.var_format, Format.pair, Format.cell]
        omega
      · rename_i hvar
        split
        · rename_i htype
          have hread : OperandContent.format.read request.data position = some (.VarBit
              (request.data (position + 1)) (address_at request.data (position + 1 + 1))
              (request.data (position + 1 + 1 + Platform.addr_size))
              (request.data (position + 1 + 1 + Platform.addr_size + 1))) := by
            rw [OperandContent.format]
            simp only [if_neg hliteral, if_neg hrpv, if_neg hvar, if_pos htype,
              OperandContent.read_varbit, Option.map_some]
          refine Format.decodes_of_read _ hread ?_ ⟨htype, rfl, rfl, rfl, ?_⟩
          · simp [OperandContent.format, OperandContent.varbit_format, Format.pair, Format.cell]
            omega
          · exact congrArg request.data (by omega)
        · rename_i hvarbit
          have hread : OperandContent.format.read request.data position = none :=
            (if_neg hliteral).trans
              ((if_neg hrpv).trans ((if_neg hvar).trans (if_neg hvarbit)))
          exact Format.decodes_of_read_none _ hread

/-- An item is decoded as its type says. -/
theorem decode_item_decodes (request : Request) {position : Nat} (item : LoggableItem)
    (hinside : position < request.data_length.toNat) :
    ItemContent.format.Decodes request.data request.data_length.toNat position LoggableItem.Holds
      (decode_item request (position + 1) { item with type := request.data position }) := by
  unfold decode_item
  simp only
  split
  · rename_i htype
    have hread : ItemContent.format.read request.data position = some (.Memory
        (address_at request.data (position + 1))
        (request.data (position + 1 + Platform.addr_size))) := by
      rw [ItemContent.format]
      simp only [if_pos htype, ItemContent.read_memory, Option.map_some]
    refine Format.decodes_of_read _ hread ?_ ⟨htype, rfl, rfl⟩
    simp [ItemContent.format, ItemContent.memory_format, Format.pair, Format.cell]
    omega
  · rename_i hmemory
    split
    · rename_i htype
      have hread : ItemContent.format.read request.data position = some (.Rpv _) :=
        (if_neg hmemory).trans (if_pos htype)
      exact Format.decodes_of_read _ hread rfl ⟨htype, rfl⟩
    · rename_i hrpv
      split
      · rename_i htype
        have hread : ItemContent.format.read request.data position = some .Time :=
          (if_neg hmemory).trans ((if_neg hrpv).trans (if_pos htype))
        exact Format.decodes_of_read_le hread rfl hinside htype
      · rename_i htime
        have hread : ItemContent.format.read request.data position = none :=
          (if_neg hmemory).trans ((if_neg hrpv).trans (if_neg htime))
        exact Format.decodes_of_read_none _ hread

/-- The loop over the operands of the trigger. -/
def operand_decoder (request : Request) : TableDecoder OperandContent.format request.data
    request.data_length.toNat Configuration Operand where
  table config := config.trigger.operands
  set config operands := { config with trigger := { config.trigger with operands := operands } }
  set_table _ := rfl
  table_set _ _ := rfl
  set_set _ _ _ := rfl
  decode position operand :=
    decode_operand request (position + 1) { operand with type := request.data position }
  Holds := Operand.Holds
  decodes position operand _ := decode_operand_decodes request position operand
  encode_pos value := by cases value <;> exact Nat.succ_pos _
  loop := decode_operands request
  loop_zero _ _ _ := rfl
  loop_succ _ _ _ _ := rfl

/-- The loop over the items. -/
def item_decoder (request : Request) : TableDecoder ItemContent.format request.data
    request.data_length.toNat Configuration LoggableItem where
  table config := config.items_to_log
  set config items := { config with items_to_log := items }
  set_table _ := rfl
  table_set _ _ := rfl
  set_set _ _ _ := rfl
  decode position item :=
    decode_item request (position + 1) { item with type := request.data position }
  Holds := LoggableItem.Holds
  decodes _ item hinside := decode_item_decodes request item hinside
  encode_pos value := by cases value <;> exact Nat.succ_pos _
  loop := decode_items request
  loop_zero _ _ _ := rfl
  loop_succ _ _ _ _ := rfl

/-- A request that gets through every check, with the configuration before and after its
items, and the cursor between the operands and the items. -/
structure Accepted (request : Request) (config middle last : Configuration) (cursor : Nat) :
    Prop where
  length : 16 ≤ request.data_length.toNat
  operand_count : (request.data 15).toNat ≤ MAX_OPERANDS
  operands : decode_operands request (request.data 15).toNat 0 16
    (decode_configure_header request config) = (middle, some cursor)
  inside : cursor + 1 ≤ request.data_length.toNat
  items_count : (request.data cursor).toNat ≤ Platform.datalogging_max_signal.toNat
  items : decode_items request (request.data cursor).toNat 0 (cursor + 1)
    { middle with items_count := request.data cursor } =
      (last, some request.data_length.toNat)

theorem Accepted.decode {request : Request} {config middle last : Configuration} {cursor : Nat}
    (haccepted : Accepted request config middle last cursor) :
    decode_datalogging_configure_request request config =
      (.OK, ⟨request.data 0, decode_16_bits_big_endian_8bits (request.data.shift 1)⟩, last) := by
  obtain ⟨hlength, hcount, hoperands, hinside, hitems_count, hitems⟩ := haccepted
  have hlong : ¬ request.data_length < 16 := by bv_omega
  have hfew : ¬ (request.data 15).toNat > MAX_OPERANDS := Nat.not_lt.mpr hcount
  have hmore : ¬ request.data_length.toNat < cursor + 1 := Nat.not_lt.mpr hinside
  have hfit : ¬ request.data cursor > Platform.datalogging_max_signal := by bv_omega
  simp only [decode_configure_header] at hoperands
  simp only [decode_datalogging_configure_request, decode_configure_header, if_neg hlong,
    if_neg hfew, hoperands, if_neg hmore, if_neg hfit, hitems, ne_eq, not_true_eq_false,
    if_false]

theorem accepted_of_ok {request : Request} {config : Configuration}
    (hok : (decode_datalogging_configure_request request config).1 = .OK) :
    ∃ middle last cursor, Accepted request config middle last cursor := by
  unfold decode_datalogging_configure_request at hok
  simp only at hok
  split at hok
  · cases hok
  · rename_i hlength
    split at hok
    · cases hok
    · rename_i hcount
      split at hok
      · cases hok
      · rename_i middle cursor hoperands
        split at hok
        · cases hok
        · rename_i hinside
          split at hok
          · cases hok
          · rename_i hitems_count
            split at hok
            · cases hok
            · rename_i last cursor' hitems
              split at hok
              · cases hok
              · rename_i hend
                rw [ne_eq, not_not] at hend
                rw [hend] at hitems
                exact ⟨middle, last, cursor, by bv_omega, Nat.le_of_not_lt hcount, hoperands,
                  Nat.le_of_not_lt hinside, by bv_omega, hitems⟩

end CodecV1_0

/-- The content where the decoder looks for it, with the cursor at the number of items. -/
structure Parsed (request : Request) (content : ConfigureRequest) (cursor : Nat) : Prop where
  header : ConfigureHeader.format.read request.data 0 = some content.header
  length : 16 ≤ request.data_length.toNat
  operand_count : request.data 15 = BitVec.ofNat 8 content.operands.length
  operands : OperandContent.format.parse_many request.data request.data_length.toNat
    content.operands.length 16 = some (content.operands, cursor)
  inside : cursor + 1 ≤ request.data_length.toNat
  items_count : request.data cursor = BitVec.ofNat 8 content.items.length
  items : ItemContent.format.parse_many request.data request.data_length.toNat
    content.items.length (cursor + 1) = some (content.items, request.data_length.toNat)

namespace Parsed

variable {request : Request} {content : ConfigureRequest} {cursor : Nat}

/-- The payload is a content just when that is where the decoder looks for it. -/
theorem payload_eq_encode_iff :
    request.payload = content.encode ↔ ∃ cursor, Parsed request content cursor := by
  rw [Request.payload, ConfigureRequest.encode]
  constructor
  · intro hslice
    obtain ⟨hlength, hheader, hrest⟩ := Buffer.slice_eq_append hslice
    obtain ⟨hpos, hcount, hoperands⟩ := Buffer.slice_eq_cons hrest
    rw [ConfigureHeader.length_encode] at hpos hcount hoperands
    rw [Nat.sub_sub, Nat.zero_add] at hoperands
    obtain ⟨hsum, _, htail⟩ := Buffer.slice_eq_append hoperands
    obtain ⟨hpos', hcount', hitems⟩ := Buffer.slice_eq_cons htail
    refine ⟨16 + (content.operands.flatMap OperandContent.format.encode).length,
      (ConfigureHeader.format.slice_iff _ _ _).mp hheader, by omega, hcount, ?_, by omega,
      hcount', ?_⟩
    · refine (OperandContent.format.parse_many_iff (by omega)).mpr
        ⟨rfl, by omega, by omega, ?_⟩
      rw [hoperands, ← htail, Nat.sub_sub]
    · refine (ItemContent.format.parse_many_iff (by omega)).mpr
        ⟨rfl, by omega, Nat.le_refl _, ?_⟩
      rw [Nat.sub_self, Buffer.slice_zero, List.append_nil, ← hitems]
      congr 1
      omega
  · rintro ⟨cursor, hparsed⟩
    obtain ⟨_, hafter, hbefore, hoperands⟩ :=
      (OperandContent.format.parse_many_iff hparsed.length).mp hparsed.operands
    obtain ⟨_, _, _, hitems⟩ :=
      (ItemContent.format.parse_many_iff hparsed.inside).mp hparsed.items
    have hheader := (ConfigureHeader.format.slice_iff _ _ _).mpr hparsed.header
    have hlength := hparsed.length
    have hinside := hparsed.inside
    rw [ConfigureHeader.length_encode] at hheader
    rw [Nat.sub_self, Buffer.slice_zero, List.append_nil] at hitems
    have hsplit : request.data_length.toNat = 15 + (1 + (request.data_length.toNat - 16)) := by
      omega
    have hrest : request.data_length.toNat - cursor =
        1 + (request.data_length.toNat - (cursor + 1)) := by
      omega
    rw [hsplit, Buffer.slice_add, hheader, Nat.add_comm 1, Nat.zero_add, Buffer.slice_succ,
      hparsed.operand_count, hoperands, hrest, Nat.add_comm 1, Buffer.slice_succ,
      hparsed.items_count, hitems]

theorem operands_length (hparsed : Parsed request content cursor) :
    (request.data 15).toNat = content.operands.length := by
  have hmax : content.operands.length ≤ 3 := content.operands_max
  rw [hparsed.operand_count, BitVec.toNat_ofNat]
  omega

theorem items_length (hparsed : Parsed request content cursor) :
    (request.data cursor).toNat = content.items.length := by
  have hmax := content.items_max
  have hsignal := Platform.datalogging_max_signal.isLt
  rw [hparsed.items_count, BitVec.toNat_ofNat]
  omega

/-- A request where the content is found is decoded to it. -/
theorem decode (hparsed : Parsed request content cursor) (config : Configuration) :
    ∃ decoded, CodecV1_0.decode_datalogging_configure_request request config =
        (.OK, ⟨content.header.loop_id, content.header.config_id⟩, decoded) ∧
      decoded.Holds content := by
  have hcount := hparsed.operands_length
  have hitems_count := hparsed.items_length
  let header := CodecV1_0.decode_configure_header request config
  obtain ⟨operands, hoperands, _, hoperands_hold⟩ :
      ∃ operands, CodecV1_0.decode_operands request content.operands.length 0 16 header =
          ({ header with trigger := { header.trigger with operands := operands } },
            some cursor) ∧ _ ∧
        List.Forall₂ Operand.Holds
          ((List.range' 0 content.operands.length).map operands) content.operands :=
    (CodecV1_0.operand_decoder request).loop_of_parse_some hparsed.operands
  let middle := { header with
    trigger := { header.trigger with operands := operands }
    items_count := request.data cursor }
  obtain ⟨items, hitems, _, hitems_hold⟩ :
      ∃ items, CodecV1_0.decode_items request content.items.length 0 (cursor + 1) middle =
          ({ middle with items_to_log := items }, some request.data_length.toNat) ∧ _ ∧
        List.Forall₂ LoggableItem.Holds
          ((List.range' 0 content.items.length).map items) content.items :=
    (CodecV1_0.item_decoder request).loop_of_parse_some hparsed.items
  rw [← hcount] at hoperands
  rw [← hitems_count] at hitems
  have haccepted : CodecV1_0.Accepted request config _ _ cursor :=
    ⟨hparsed.length, by rw [hcount]; exact content.operands_max, hoperands, hparsed.inside,
      by rw [hitems_count]; exact content.items_max, hitems⟩
  have hheader := hparsed.header
  rw [ConfigureHeader.read_format, Option.some.injEq] at hheader
  rw [← List.range_eq_range'] at hoperands_hold hitems_hold
  refine ⟨{ middle with items_to_log := items }, ?_, ?_⟩
  · rw [haccepted.decode, ← hheader]
  · rw [← hcount] at hoperands_hold
    rw [← hitems_count] at hitems_hold
    exact ⟨congrArg ConfigureHeader.decimation hheader,
      congrArg ConfigureHeader.probe_location hheader,
      congrArg ConfigureHeader.timeout_100ns hheader, congrArg ConfigureHeader.condition hheader,
      congrArg ConfigureHeader.hold_time_100ns hheader, hoperands_hold, hitems_hold⟩

/-- A content is found in every request that is decoded. -/
theorem of_ok {config : Configuration}
    (hok : (CodecV1_0.decode_datalogging_configure_request request config).1 = .OK) :
    ∃ content cursor, Parsed request content cursor := by
  obtain ⟨middle, last, cursor, haccepted⟩ := CodecV1_0.accepted_of_ok hok
  obtain ⟨operands, hoperands⟩ := (CodecV1_0.operand_decoder request).loop_eq_some_iff.mp
    (congrArg Prod.snd haccepted.operands)
  obtain ⟨items, hitems⟩ := (CodecV1_0.item_decoder request).loop_eq_some_iff.mp
    (congrArg Prod.snd haccepted.items)
  obtain ⟨hcount, _⟩ :=
    (OperandContent.format.parse_many_iff haccepted.length).mp hoperands
  obtain ⟨hitems_count, _⟩ := (ItemContent.format.parse_many_iff haccepted.inside).mp hitems
  have hmax := haccepted.operand_count
  have hitems_max := haccepted.items_count
  rw [← hcount] at hoperands hmax
  rw [← hitems_count] at hitems hitems_max
  refine ⟨⟨_, operands, items, hmax, hitems_max⟩, cursor, ConfigureHeader.read_format _,
    haccepted.length, ?_, hoperands, haccepted.inside, ?_, hitems⟩
  · rw [hcount, BitVec.ofNat_toNat, BitVec.setWidth_eq]
  · rw [hitems_count, BitVec.ofNat_toNat, BitVec.setWidth_eq]

end Parsed

/-- The decoder accepts the encodings, and inverts them. Every content has one that a request
can carry. -/
theorem configure_request_decoded (request : Request) (config : Configuration) :
    ((CodecV1_0.decode_datalogging_configure_request request config).1 = .OK ↔
      ∃ content : ConfigureRequest, request.payload = content.encode) ∧
    (∀ content : ConfigureRequest, request.payload = content.encode →
      ∃ decoded, CodecV1_0.decode_datalogging_configure_request request config =
          (.OK, ⟨content.header.loop_id, content.header.config_id⟩, decoded) ∧
        decoded.Holds content) ∧
    ∀ content : ConfigureRequest, content.encode.length < 2 ^ 16 := by
  refine ⟨⟨?_, ?_⟩, ?_, ConfigureRequest.length_encode_lt⟩
  · intro hok
    obtain ⟨content, cursor, hparsed⟩ := Parsed.of_ok hok
    exact ⟨content, Parsed.payload_eq_encode_iff.mpr ⟨cursor, hparsed⟩⟩
  · rintro ⟨content, hpayload⟩
    obtain ⟨cursor, hparsed⟩ := Parsed.payload_eq_encode_iff.mp hpayload
    obtain ⟨decoded, hdecode, _⟩ := hparsed.decode config
    rw [hdecode]
  · intro content hpayload
    obtain ⟨cursor, hparsed⟩ := Parsed.payload_eq_encode_iff.mp hpayload
    exact hparsed.decode config

end

section

attribute [local instance] host.platform

/-- Two operands, the time and four bytes. -/
def two_operands : ConfigureRequest where
  header := ⟨1, 2, 3, 128, 4, 5, 6⟩
  operands := [.VarBit 0x20 ⟨0x1000, by decide⟩ 3 2, .Literal 0x3F800000]
  items := [.Time, .Memory ⟨0x2000, by decide⟩ 4]
  operands_max := by decide
  items_max := by decide

def two_operands_request : Request where
  command_id := 5
  subfunction_id := 2
  data_length := BitVec.ofNat 16 two_operands.encode.length
  data_max_length := 128
  data := host.buffer_of two_operands.encode
  crc := 0

theorem two_operands_decoded :
    (CodecV1_0.decode_datalogging_configure_request two_operands_request
        host.datalogger.m_config).1 = .OK ∧
      ∃ decoded, CodecV1_0.decode_datalogging_configure_request two_operands_request
          host.datalogger.m_config = (.OK, ⟨1, 2⟩, decoded) ∧ decoded.Holds two_operands := by
  obtain ⟨haccepts, hinverts, _⟩ :=
    configure_request_decoded two_operands_request host.datalogger.m_config
  have hpayload : two_operands_request.payload = two_operands.encode := by decide +kernel
  exact ⟨haccepts.mpr ⟨two_operands, hpayload⟩, hinverts two_operands hpayload⟩

end

end scrutiny.protocol
