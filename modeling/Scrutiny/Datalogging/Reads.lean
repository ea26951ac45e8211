import Scrutiny.MemoryAccess
import Scrutiny.Datalogging.Firing

open foundation

namespace scrutiny

variable [Platform]

/-- A range of the target memory. -/
structure MemoryRange where
  start_address : Nat
  size : Nat

namespace MemoryRange

/-- The addresses in a range. -/
def bytes (self : MemoryRange) : Set Nat :=
  {a | ∃ i < self.size, a = uintptr (self.start_address + i)}

theorem bytes_mono (start_address : Nat) {n m : Nat} (h : n ≤ m) :
    bytes ⟨start_address, n⟩ ⊆ bytes ⟨start_address, m⟩ := by
  rintro a ⟨i, hi, rfl⟩
  exact ⟨i, hi.trans_le h, rfl⟩

end MemoryRange

namespace Memory

/-- From one memory to the other, all that was accessed is read, and in one of the ranges. -/
def ReadsIn (ranges : List MemoryRange) (before after : Memory) : Prop :=
  ∀ access ∈ after.accesses, access ∈ before.accesses ∨
    ∃ range ∈ ranges, ∃ a ∈ range.bytes, access = .read a

namespace ReadsIn

variable {ranges ranges' : List MemoryRange} {first second third : Memory}

theorem of_accesses (h : second.accesses = first.accesses) : ReadsIn ranges first second :=
  fun _ haccess => .inl (h ▸ haccess)

theorem refl (memory : Memory) : ReadsIn ranges memory memory := of_accesses rfl

theorem trans (h : ReadsIn ranges first second) (h' : ReadsIn ranges second third) :
    ReadsIn ranges first third := by
  intro _ haccess
  rcases h' _ haccess with hbefore | hread
  · exact h _ hbefore
  · exact .inr hread

theorem mono (hsub : ∀ range ∈ ranges, range ∈ ranges') (h : ReadsIn ranges first second) :
    ReadsIn ranges' first second := by
  intro _ haccess
  rcases h _ haccess with hbefore | ⟨range, hrange, hread⟩
  · exact .inl hbefore
  · exact .inr ⟨range, hsub range hrange, hread⟩

end ReadsIn

theorem copy_out_reads (memory : Memory) (start_address size : Nat) :
    ReadsIn [⟨start_address, size⟩] memory (memory.copy_out start_address size).2 := by
  intro _ haccess
  rcases (mem_accesses_copy_out size start_address memory).mp haccess with ⟨i, hi, hread⟩ | hbefore
  · exact .inr ⟨⟨start_address, size⟩, List.mem_singleton_self _, _, ⟨i, hi, rfl⟩, hread⟩
  · exact .inl hbefore

end Memory

namespace datalogging

open Memory

/-- The range that `fetch_variable` reads. -/
def variable_range (addr : Nat) (variable_type : VariableType) : Option MemoryRange :=
  let typesize_char := tools.get_type_size_8bits variable_type / 1
  if typesize_char = 0 ∨ typesize_char > 8 then none else some ⟨addr, typesize_char.toNat⟩

/-- The type that a bitfield is fetched as. -/
def bitfield_type (operand : Operand) : VariableType :=
  tools.make_type VariableTypeType._uint (tools.get_required_type_size_8bits
    (MainHandler.required_size (operand.bitoffset.toNat + operand.bitsize.toNat)))

/-- The range that an operand is fetched from. -/
def operand_range (operand : Operand) : Option MemoryRange :=
  if operand.type = OperandType.Var then variable_range operand.addr operand.datatype
  else if operand.type = OperandType.VarBit ∧ operand.bitsize ≠ 0 then
    variable_range operand.addr (bitfield_type operand)
  else none

/-- The range that an item is copied from. -/
def item_range (item : LoggableItem) : Option MemoryRange :=
  if item.type = LoggableType.Memory then some ⟨item.address, item.size.toNat⟩ else none

/-- The ranges read to log an entry and to look for the trigger. -/
def Configuration.read_ranges (self : Configuration) : List MemoryRange :=
  self.item_list.filterMap item_range ++ self.operand_list.filterMap operand_range

theorem read_rpv_reads {ranges : List MemoryRange} (handler : Config) (rpv : RuntimePublishedValue)
    (caller : Option LoopId) (memory : Memory) :
    ReadsIn ranges memory (MainHandler.read_rpv handler rpv caller memory).2 := by
  unfold MainHandler.read_rpv
  split <;> exact .of_accesses rfl

theorem fetch_variable_reads (addr : Nat) (variable_type : VariableType) (val : AnyType)
    (memory : Memory) : ReadsIn (variable_range addr variable_type).toList memory
      (MainHandler.fetch_variable addr variable_type val memory).2 := by
  unfold MainHandler.fetch_variable variable_range
  simp only
  split
  · exact .refl memory
  · exact copy_out_reads memory addr _

theorem fetch_variable_bitfield_reads (operand : Operand) (var_tt : VariableTypeType)
    (pair : AnyValAndTypePair) (memory : Memory) (hbitsize : operand.bitsize ≠ 0) :
    ReadsIn (variable_range operand.addr (bitfield_type operand)).toList memory
      (MainHandler.fetch_variable_bitfield operand.addr var_tt operand.bitoffset operand.bitsize
        pair memory).2 := by
  have hfetch := fetch_variable_reads operand.addr (bitfield_type operand) pair.val memory
  unfold MainHandler.fetch_variable_bitfield
  simp only
  rw [if_neg hbitsize]
  split
  · split <;> exact hfetch
  · exact .refl memory

theorem fetch_operand_reads (handler : Config) (operand : Operand) (pair : AnyValAndTypePair)
    (caller : Option LoopId) (memory : Memory) :
    ReadsIn (operand_range operand).toList memory
      (fetch_operand handler operand pair caller memory).2 := by
  unfold fetch_operand
  by_cases hliteral : operand.type = OperandType.Literal
  · simp only [if_pos hliteral]
    exact .refl memory
  · by_cases hrpv : operand.type = OperandType.Rpv
    · simp only [if_neg hliteral, if_pos hrpv]
      split <;> exact read_rpv_reads handler _ caller memory
    · by_cases hvar : operand.type = OperandType.Var
      · simp only [if_neg hliteral, if_neg hrpv, if_pos hvar]
        rw [operand_range, if_pos hvar]
        split <;> exact fetch_variable_reads operand.addr operand.datatype pair.val memory
      · by_cases hbits : operand.type = OperandType.VarBit
        · have hfetched := fetch_variable_bitfield_reads operand
            (tools.get_var_type_type operand.datatype) pair memory
          simp only [if_neg hliteral, if_neg hrpv, if_neg hvar, if_pos hbits]
          by_cases hbitsize : operand.bitsize = 0
          · simp only [MainHandler.fetch_variable_bitfield, if_pos hbitsize]
            exact .refl memory
          · rw [operand_range, if_neg hvar, if_pos ⟨hbits, hbitsize⟩]
            split <;> exact hfetched hbitsize
        · simp only [if_neg hliteral, if_neg hrpv, if_neg hvar, if_neg hbits]
          exact .refl memory

namespace DataLogger

theorem fetch_operands_reads (handler : Config) (n i : Nat) (self : DataLogger) (memory : Memory) :
    ReadsIn ((List.range' i n).filterMap fun k => operand_range (self.m_config.trigger.operands k))
      memory (fetch_operands handler n i self memory).2 := by
  induction n generalizing i self memory with
  | zero => exact .refl memory
  | succ n ih =>
    have hfirst : ReadsIn ((List.range' i (n + 1)).filterMap fun k =>
        operand_range (self.m_config.trigger.operands k)) memory
          (fetch_operand handler (self.m_config.trigger.operands i) (self.ops_data i)
            self.m_owner memory).2 :=
      (fetch_operand_reads handler _ _ _ _).mono fun range hrange =>
        List.mem_filterMap.mpr ⟨i, by simp, Option.mem_toList.mp hrange⟩
    unfold fetch_operands
    simp only
    split
    · exact hfirst
    · refine hfirst.trans ?_
      refine ((ih (i + 1) _ _).mono fun range hrange => ?_)
      rw [List.range'_succ]
      obtain ⟨k, hk, hrange⟩ := List.mem_filterMap.mp hrange
      exact List.mem_filterMap.mpr ⟨k, List.mem_cons_of_mem _ hk, hrange⟩

theorem encode_items_reads (handler : Config) (timebase : Timebase) (caller : Option LoopId)
    (items : List LoggableItem) (cursor : Nat) (buffer : ByteBuffer) (memory : Memory) :
    ReadsIn (items.filterMap item_range) memory
      (RawFormatEncoder.encode_items handler timebase caller items cursor buffer memory).2 := by
  induction items generalizing cursor buffer memory with
  | nil => exact .refl memory
  | cons item items ih =>
    have hitem : ReadsIn ((item :: items).filterMap item_range) memory
        (RawFormatEncoder.encode_item handler timebase caller item memory).2 := by
      unfold RawFormatEncoder.encode_item
      split
      · rename_i hmemory
        refine (copy_out_reads memory item.address item.size.toNat).mono fun range hrange => ?_
        rw [List.mem_singleton.mp hrange]
        exact List.mem_filterMap.mpr ⟨item, List.mem_cons_self, if_pos hmemory⟩
      · split
        · exact read_rpv_reads handler _ caller memory
        · split <;> exact .refl memory
    refine hitem.trans ((ih _ _ _).mono fun range hrange => ?_)
    obtain ⟨other, hother, hrange⟩ := List.mem_filterMap.mp hrange
    exact List.mem_filterMap.mpr ⟨other, List.mem_cons_of_mem _ hother, hrange⟩

theorem process_acquisition_reads (self : DataLogger) (handler : Config)
    (timebases : LoopId → Timebase) (memory : Memory) :
    ReadsIn (self.m_config.item_list.filterMap item_range) memory
      (self.process_acquisition handler timebases memory).2 := by
  unfold process_acquisition
  simp only
  split
  · unfold RawFormatEncoder.encode_next_entry
    split
    · exact .refl memory
    · exact encode_items_reads handler _ _ _ _ _ _
  · exact .refl memory

theorem check_trigger_reads (self : DataLogger) (handler : Config) (timebases : LoopId → Timebase)
    (memory : Memory) (hcount : self.m_trigger.active_condition.operand_count =
      self.m_config.trigger.operand_count) :
    ReadsIn (self.m_config.operand_list.filterMap operand_range) memory
      (self.check_trigger handler timebases memory).2 := by
  have hfetched := fetch_operands_reads handler
    self.m_trigger.active_condition.operand_count.toNat 0 self memory
  rw [hcount] at hfetched
  have hranges : (List.range' 0 self.m_config.trigger.operand_count.toNat).filterMap
      (fun k => operand_range (self.m_config.trigger.operands k)) =
        self.m_config.operand_list.filterMap operand_range := by
    rw [Configuration.operand_list, List.filterMap_map, List.range_eq_range']
    rfl
  rw [hranges] at hfetched
  unfold check_trigger
  rw [hcount]
  simp only
  split
  · exact .refl memory
  · split
    · exact .refl memory
    · split
      · exact .refl memory
      · split <;> exact hfetched

theorem process_active_memory {self : DataLogger} (hactive : self.m_state.active = true)
    (herror : self.m_encoder.error = false) (handler : Config) (timebases : LoopId → Timebase)
    (memory : Memory) :
    (self.process handler timebases memory).2 =
      (process_trigger (self.process_acquisition handler timebases memory).1 handler timebases
        (self.process_acquisition handler timebases memory).2).2 := by
  unfold process
  cases hstate : self.m_state with
  | Idle | AcquisitionCompleted | Error => rw [hstate] at hactive; cases hactive
  | Configured | Armed | Triggered => simp only [herror, Bool.false_eq_true, if_false]

/-- All that is read in a call of `process` is in the ranges of the configuration. -/
theorem process_reads (self : DataLogger) (handler : Config) (timebases : LoopId → Timebase)
    (memory : Memory) (hcount : self.m_trigger.active_condition.operand_count =
      self.m_config.trigger.operand_count) :
    ReadsIn self.m_config.read_ranges memory (self.process handler timebases memory).2 := by
  cases hactive : self.m_state.active with
  | false =>
    rw [process_inactive hactive]
    exact .refl memory
  | true =>
    cases herror : self.m_encoder.m_error with
    | true =>
      rw [process_error hactive herror]
      exact .refl memory
    | false =>
      have hacquired := self.process_acquisition_eq handler timebases memory
      have hlogged := (self.process_acquisition_reads handler timebases memory).mono
        fun range hrange => List.mem_append_left
          (self.m_config.operand_list.filterMap operand_range) hrange
      rw [process_active_memory hactive herror]
      refine hlogged.trans ?_
      generalize (self.process_acquisition handler timebases memory).2 = memory'
      generalize (self.process_acquisition handler timebases memory).1 = acquired at hacquired ⊢
      have hchecked := acquired.check_trigger_reads handler timebases memory'
        (by rw [hacquired]; exact hcount)
      have hconfig : acquired.m_config = self.m_config := by rw [hacquired]
      rw [hconfig] at hchecked
      have hlooked := hchecked.mono fun range hrange => List.mem_append_right
        (self.m_config.item_list.filterMap item_range) hrange
      unfold process_trigger
      split
      · simp only
        split
        · refine hlooked.trans ?_
          split <;> exact .of_accesses rfl
        · exact hlooked
      · exact .refl memory'

end DataLogger

end datalogging

end scrutiny
