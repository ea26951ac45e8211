import Scrutiny.Datalogging.Sources
import Scrutiny.Host

open foundation

namespace scrutiny.datalogging

namespace SameValue

variable {pair other : AnyValAndTypeComparePair}

/-- A float is compared by its own bits, another value by all of them. -/
theorem cases (h : SameValue pair other) :
    (pair.valtype = VariableTypeCompare._float ∧ pair.val.uint32 = other.val.uint32) ∨
      (pair.valtype ≠ VariableTypeCompare._float ∧ pair.val = other.val) := by
  have hval := h.val
  by_cases hfloat : pair.valtype = VariableTypeCompare._float
  · simp only [read_as, if_pos hfloat] at hval
    have hbits := congrArg (BitVec.setWidth 32) hval
    rw [BitVec.setWidth_setWidth_of_le _ (by decide), BitVec.setWidth_setWidth_of_le _ (by decide),
      BitVec.setWidth_eq, BitVec.setWidth_eq] at hbits
    exact .inl ⟨hfloat, hbits⟩
  · simp only [read_as, if_neg hfloat] at hval
    exact .inr ⟨hfloat, hval⟩

end SameValue

namespace trigger

/-- The data kept by a condition, with a value of some type in it. -/
structure SameData (type : VariableType) (data other : ConditionSharedData) : Prop where
  initialized : data.initialized = other.initialized
  previous_val : SameValue ⟨data.previous_val, type⟩ ⟨other.previous_val, type⟩

theorem SameData.refl (type : VariableType) (data : ConditionSharedData) :
    SameData type data data := ⟨rfl, .refl _⟩

/-- A condition that cannot tell the operands it is given from others with the same values. -/
def Extensional (condition : ActiveCondition) : Prop :=
  ∀ type data other operands operands',
    (∀ i < condition.operand_count.toNat, SameValue (operands i) (operands' i)) →
    (0 < condition.operand_count.toNat → (operands 0).valtype = type) →
    SameData type data other →
    (condition.eval_fn data operands).1 = (condition.eval_fn other operands').1 ∧
      SameData type (condition.eval_fn data operands).2 (condition.eval_fn other operands').2

variable [Platform]

theorem to_float_congr {operand other : AnyValAndTypeComparePair} (h : SameValue operand other) :
    to_float operand = to_float other := by
  rcases h.cases with ⟨hfloat, hval⟩ | ⟨hfloat, hval⟩
  · rw [to_float, to_float, ← h.valtype, if_pos hfloat, if_pos hfloat, hval]
  · rw [to_float, to_float, ← h.valtype, if_neg hfloat, if_neg hfloat, hval]

theorem RelationalCompare_congr (op : RelationalOperator)
    {operands operands' : Nat → AnyValAndTypeComparePair}
    (h0 : SameValue (operands 0) (operands' 0)) (h1 : SameValue (operands 1) (operands' 1)) :
    RelationalCompare op operands = RelationalCompare op operands' := by
  rw [RelationalCompare, RelationalCompare, ← h0.valtype, ← h1.valtype]
  rcases h0.cases with ⟨hfloat0, hval0⟩ | ⟨hfloat0, hval0⟩ <;>
    rcases h1.cases with ⟨hfloat1, hval1⟩ | ⟨hfloat1, hval1⟩ <;>
    simp only [hfloat0, hfloat1, hval0, hval1, if_true, if_false]

theorem relational_extensional (op : RelationalOperator) :
    Extensional (relational_condition op) :=
  fun _ _ _ _ _ hoperands _ hdata =>
    ⟨RelationalCompare_congr op (hoperands 0 Nat.two_pos) (hoperands 1 Nat.one_lt_two), hdata⟩

theorem within_extensional : Extensional IsWithinCondition := by
  intro type data other operands operands' hoperands htype hdata
  have h0 := to_float_congr (hoperands 0 (Nat.succ_pos 2))
  have h1 := to_float_congr (hoperands 1 (Nat.one_lt_succ_succ 1))
  have h2 := to_float_congr (hoperands 2 (Nat.lt_succ_self 2))
  simp only [IsWithinCondition, IsWithinCondition.evaluate, h0, h1, h2]
  split
  · exact ⟨rfl, hdata⟩
  · exact ⟨rfl, hdata⟩

omit [Platform] in
theorem always_true_extensional : Extensional AlwaysTrueCondition :=
  fun _ _ _ _ _ _ _ hdata => ⟨rfl, hdata⟩

theorem changed_more_than_congr {data other : ConditionSharedData} (delta : uint32_t)
    {operand operand' : AnyValAndTypeComparePair} (h : SameValue operand operand')
    (hdata : SameData operand.valtype data other) :
    ChangeMoreThanCondition.changed_more_than data delta operand =
      ChangeMoreThanCondition.changed_more_than other delta operand' := by
  rw [ChangeMoreThanCondition.changed_more_than, ChangeMoreThanCondition.changed_more_than,
    ← h.valtype]
  rcases h.cases with ⟨hfloat, hval⟩ | ⟨hfloat, hval⟩
  · obtain ⟨_, hprevious⟩ | ⟨hother, _⟩ := hdata.previous_val.cases
    · have hmember : data.previous_val._float = other.previous_val._float := hprevious
      have huint : ¬VariableTypeCompare._float = VariableTypeCompare._uint := by decide
      have hsint : ¬VariableTypeCompare._float = VariableTypeCompare._sint := by decide
      simp only [hfloat, if_neg huint, if_neg hsint, if_true, hval, hmember]
    · exact absurd hfloat hother
  · obtain ⟨hother, _⟩ | ⟨_, hprevious⟩ := hdata.previous_val.cases
    · exact absurd hother hfloat
    · have hmember : data.previous_val = other.previous_val := hprevious
      rw [hval, hmember]

theorem change_more_than_extensional : Extensional ChangeMoreThanCondition := by
  intro type data other operands operands' hoperands htype hdata
  have h0 := hoperands 0 Nat.two_pos
  have hdelta := to_float_congr (hoperands 1 Nat.one_lt_two)
  have hvaltype := htype Nat.two_pos
  simp only [ChangeMoreThanCondition, ChangeMoreThanCondition.evaluate, ← hdelta]
  split
  · exact ⟨rfl, hdata⟩
  · subst hvaltype
    rename_i delta _
    rw [← hdata.initialized, changed_more_than_congr delta h0 hdata]
    exact ⟨rfl, rfl, rfl, h0.val⟩

theorem lut_extensional : ∀ condition ∈ CONDITION_CONFIG_LUT, Extensional condition := by
  simp only [CONDITION_CONFIG_LUT, List.forall_mem_cons]
  exact ⟨always_true_extensional, relational_extensional _, relational_extensional _,
    relational_extensional _, relational_extensional _, relational_extensional _,
    relational_extensional _, change_more_than_extensional, within_extensional,
    fun _ h => nomatch h⟩

end trigger

section

variable [Platform]

theorem convert_valtype (pair : AnyValAndTypePair) :
    (convert_to_compare_type pair).valtype =
      (convert_to_compare_type ⟨0, pair.valtype⟩).valtype := by
  unfold convert_to_compare_type
  simp only
  split_ifs <;> rfl

/-- The type of the values fetched for an operand. -/
def fetched_type (handler : Config) (operand : Operand) : VariableType :=
  if operand.type = OperandType.Literal then VariableType.float32
  else if operand.type = OperandType.Rpv then
    ((MainHandler.get_rpv handler operand.id).getD ⟨operand.id, VariableType.unknown⟩).type
  else if operand.type = OperandType.Var then operand.datatype
  else tools.make_type (tools.get_var_type_type operand.datatype)
    (tools.get_required_type_size_8bits (MainHandler.required_size operand.bitsize.toNat))

/-- The type under which the values of an operand are compared. -/
def compared_type (handler : Config) (operand : Operand) : VariableType :=
  (convert_to_compare_type ⟨0, fetched_type handler operand⟩).valtype

theorem bitfield_valtype {addr : Nat} {var_tt : VariableTypeType} {bitoffset bitsize : uint8_t}
    {pair : AnyValAndTypePair} {memory : Memory}
    (hsuccess : (MainHandler.fetch_variable_bitfield addr var_tt bitoffset bitsize pair
      memory).1.1 = true) :
    (MainHandler.fetch_variable_bitfield addr var_tt bitoffset bitsize pair memory).1.2.valtype =
      tools.make_type var_tt
        (tools.get_required_type_size_8bits (MainHandler.required_size bitsize.toNat)) := by
  unfold MainHandler.fetch_variable_bitfield at hsuccess ⊢
  by_cases hpos : bitsize = 0
  · simp only [if_pos hpos] at hsuccess
    cases hsuccess
  · simp only [if_neg hpos] at hsuccess ⊢
    split at hsuccess
    · rename_i hkind
      simp only [if_pos hkind]
      split at hsuccess
      · rfl
      · cases hsuccess
    · rename_i hkind
      simp only [if_neg hkind]

theorem fetch_operand_valtype {handler : Config} {operand : Operand} {pair : AnyValAndTypePair}
    {caller : Option LoopId} {memory : Memory}
    (hsuccess : (fetch_operand handler operand pair caller memory).1.1 = true) :
    (fetch_operand handler operand pair caller memory).1.2.valtype =
      fetched_type handler operand := by
  rw [fetched_type]
  by_cases hliteral : operand.type = OperandType.Literal
  · simp only [fetch_operand, if_pos hliteral, if_true]
  · by_cases hrpv : operand.type = OperandType.Rpv
    · simp only [fetch_operand, if_neg hliteral, if_pos hrpv] at hsuccess ⊢
      split at hsuccess
      · rename_i hread
        simp only [hread, if_true]
      · cases hsuccess
    · by_cases hvar : operand.type = OperandType.Var
      · simp only [fetch_operand, if_neg hliteral, if_neg hrpv, if_pos hvar] at hsuccess ⊢
        split at hsuccess
        · rename_i hread
          simp only [hread, if_true]
        · cases hsuccess
      · by_cases hvarbit : operand.type = OperandType.VarBit
        · rw [fetch_operand_varbit handler hvarbit] at hsuccess ⊢
          simp only at hsuccess ⊢
          split at hsuccess
          · rename_i hread
            simp only [hread, if_true, if_neg hliteral, if_neg hrpv, if_neg hvar]
            exact bitfield_valtype hread
          · cases hsuccess
        · simp only [fetch_operand, if_neg hliteral, if_neg hrpv, if_neg hvar, if_neg hvarbit,
            Bool.false_eq_true, if_false] at hsuccess

theorem compared_valtype {handler : Config} {operand : Operand} {pair : AnyValAndTypePair}
    {caller : Option LoopId} {memory : Memory}
    (hsuccess : (fetch_operand handler operand pair caller memory).1.1 = true) :
    (convert_to_compare_type (fetch_operand handler operand pair caller memory).1.2).valtype =
      compared_type handler operand := by
  rw [convert_valtype, fetch_operand_valtype hsuccess]
  rfl

namespace DataLogger

/-- The first operands, converted to the types they are compared under. -/
def Fetched (handler : Config) (config : Configuration) (n : Nat)
    (entries entries' : Nat → AnyValAndTypePair) : Prop :=
  ∀ k < n, SameValue (entries k) (entries' k) ∧
    (entries k).valtype = compared_type handler (config.trigger.operands k)

theorem Fetched.succ {handler : Config} {config : Configuration} {i : Nat}
    {entries entries' : Nat → AnyValAndTypePair}
    (hbefore : Fetched handler config i entries entries')
    {pair pair' : AnyValAndTypePair} (hsame : SameValue pair pair')
    (htype : pair.valtype = compared_type handler (config.trigger.operands i)) :
    Fetched handler config (i + 1) (Function.update entries i pair)
      (Function.update entries' i pair') := by
  intro k hk
  by_cases hlast : k = i
  · subst hlast
    rw [Function.update_self, Function.update_self]
    exact ⟨hsame, htype⟩
  · rw [Function.update_of_ne hlast, Function.update_of_ne hlast]
    exact hbefore k (by omega)

/-- Operands are fetched alike over different leftovers. -/
theorem fetch_operands_alike (handler : Config) (n i : Nat) {self other : DataLogger}
    (memory : Memory) (hconfig : other.m_config = self.m_config)
    (howner : other.m_owner = self.m_owner)
    (hsources : ∀ k, i ≤ k → k < i + n → from_source handler (self.m_config.trigger.operands k))
    (hbefore : Fetched handler self.m_config i self.ops_data other.ops_data) :
    ∃ success entries entries' memory',
      fetch_operands handler n i self memory =
        ((success, { self with ops_data := entries }), memory') ∧
      fetch_operands handler n i other memory =
        ((success, { other with ops_data := entries' }), memory') ∧
      (success = true → Fetched handler self.m_config (i + n) entries entries') := by
  induction n generalizing i self other memory with
  | zero => exact ⟨true, _, _, _, rfl, rfl, fun _ => hbefore⟩
  | succ n ih =>
    obtain ⟨hsuccess, hmemory, hvalue⟩ := hsources i (Nat.le_refl i) (by omega) (self.ops_data i)
      (other.ops_data i) self.m_owner memory
    simp only [fetch_operands, hconfig, howner, ← hsuccess, ← hmemory]
    by_cases hfetch : (fetch_operand handler (self.m_config.trigger.operands i) (self.ops_data i)
        self.m_owner memory).1.1 = true
    · have hnext := @ih (i + 1)
        { self with ops_data := Function.update self.ops_data i (convert_to_compare_type
          (fetch_operand handler (self.m_config.trigger.operands i) (self.ops_data i)
            self.m_owner memory).1.2) }
        { other with ops_data := Function.update other.ops_data i (convert_to_compare_type
          (fetch_operand handler (self.m_config.trigger.operands i) (other.ops_data i)
            self.m_owner memory).1.2) }
        (fetch_operand handler (self.m_config.trigger.operands i) (self.ops_data i)
          self.m_owner memory).2 hconfig howner
        (fun k hle hlt => hsources k (by omega) (by omega))
        (hbefore.succ (hvalue hfetch) (compared_valtype hfetch))
      rw [Nat.add_right_comm, Nat.add_assoc] at hnext
      simpa only [hfetch, hconfig, howner, Bool.true_eq_false, if_false] using hnext
    · rw [Bool.not_eq_true] at hfetch
      simp only [hfetch, if_true]
      exact ⟨false, _, _, _, rfl, rfl, fun h => by cases h⟩

/-- The same datalogger, but for what was left where the operands are fetched. The value kept
by the condition is that of the first operand. -/
structure Agree (handler : Config) (self other : DataLogger) : Prop where
  kept : trigger.SameData (compared_type handler (self.m_config.trigger.operands 0))
    self.m_trigger.condition_data other.m_trigger.condition_data
  rest : other = { self with
    ops_data := other.ops_data
    m_trigger := { self.m_trigger with condition_data := other.m_trigger.condition_data } }

theorem agree_of_leftover (handler : Config) (self : DataLogger)
    (leftover : Nat → AnyValAndTypePair) :
    Agree handler self { self with ops_data := leftover } :=
  ⟨.refl _ _, rfl⟩

/-- Evaluating a condition on alike operands. -/
theorem evaluate_condition_agree {handler : Config} {self other : DataLogger}
    (timebases : LoopId → Timebase)
    (hcondition : trigger.Extensional self.m_trigger.active_condition)
    (hoperands : Fetched handler self.m_config
      self.m_trigger.active_condition.operand_count.toNat self.ops_data other.ops_data)
    (hagree : Agree handler self other) :
    (self.evaluate_condition timebases).1 = (other.evaluate_condition timebases).1 ∧
      Agree handler (self.evaluate_condition timebases).2
        (other.evaluate_condition timebases).2 := by
  obtain ⟨hkept, hrest⟩ := hagree
  obtain ⟨leftover, data, hother⟩ : ∃ leftover data, other = { self with
      ops_data := leftover
      m_trigger := { self.m_trigger with condition_data := data } } := ⟨_, _, hrest⟩
  subst hother
  obtain ⟨hresult, hdata⟩ := hcondition _ _ _ _ _ (fun k hk => (hoperands k hk).1)
    (fun hk => (hoperands 0 hk).2) hkept
  simp only [evaluate_condition, timebase, ← hresult]
  exact ⟨trivial, hdata, rfl⟩

/-- Agreeing dataloggers find the same, touch the same memory and agree afterwards. -/
theorem check_trigger_agree {handler : Config} {self other : DataLogger}
    (timebases : LoopId → Timebase) (memory : Memory)
    (hcondition : trigger.Extensional self.m_trigger.active_condition)
    (hsources : ∀ k < self.m_trigger.active_condition.operand_count.toNat,
      from_source handler (self.m_config.trigger.operands k))
    (hagree : Agree handler self other) :
    let checked := self.check_trigger handler timebases memory
    let checked' := other.check_trigger handler timebases memory
    checked.1.1 = checked'.1.1 ∧ checked.2 = checked'.2 ∧
      Agree handler checked.1.2 checked'.1.2 := by
  obtain ⟨hkept, hrest⟩ := hagree
  obtain ⟨leftover, data, hother⟩ : ∃ leftover data, other = { self with
      ops_data := leftover
      m_trigger := { self.m_trigger with condition_data := data } } := ⟨_, _, hrest⟩
  subst hother
  simp only [check_trigger]
  split
  · exact ⟨rfl, rfl, hkept, rfl⟩
  · split
    · exact ⟨rfl, rfl, hkept, rfl⟩
    · split
      · exact ⟨rfl, rfl, hkept, rfl⟩
      · obtain ⟨success, entries, entries', memory', hfetch, hfetch', hfetched⟩ :=
          @fetch_operands_alike _ handler self.m_trigger.active_condition.operand_count.toNat 0 self
            { self with
              ops_data := leftover
              m_trigger := { self.m_trigger with condition_data := data } }
            memory rfl rfl (fun k _ hk => hsources k (by omega))
            (fun k hk => absurd hk (Nat.not_lt_zero k))
        rw [hfetch, hfetch']
        cases success with
        | false => exact ⟨rfl, rfl, hkept, rfl⟩
        | true =>
          rw [Nat.zero_add] at hfetched
          have hevaluated := @evaluate_condition_agree _ handler { self with ops_data := entries }
            { self with
              ops_data := entries'
              m_trigger := { self.m_trigger with condition_data := data } }
            timebases hcondition (hfetched rfl) ⟨hkept, rfl⟩
          exact ⟨hevaluated.1, rfl, hevaluated.2⟩

/-- A configuration that was accepted, with the condition that was chosen for it. -/
def Accepted (handler : Config) (self : DataLogger) : Prop :=
  ∃ origin timebase config_id,
    let configured := configure origin handler timebase config_id
    configured.m_config_valid = true ∧ self.m_config = configured.m_config ∧
      self.m_trigger.active_condition = configured.m_trigger.active_condition

/-- What is known of a configuration that was accepted. -/
structure AcceptedTrigger (handler : Config) (self : DataLogger) : Prop where
  condition : self.m_trigger.active_condition ∈ trigger.CONDITION_CONFIG_LUT
  operand_count : self.m_config.trigger.operand_count =
    self.m_trigger.active_condition.operand_count
  operands : ∀ operand ∈ self.m_config.operand_list, operand_valid handler operand = true

theorem Accepted.trigger {handler : Config} {self : DataLogger}
    (haccepted : Accepted handler self) : AcceptedTrigger handler self := by
  obtain ⟨origin, timebase, config_id, hvalid, hconfig, hcondition⟩ := haccepted
  unfold configure at hvalid hconfig hcondition
  simp only at hvalid hconfig hcondition
  split at hvalid
  · rename_i hchecks
    rw [if_pos hchecks] at hconfig hcondition
    simp only at hconfig hcondition
    simp only [← hconfig, Bool.and_eq_true, sizes_valid, decide_eq_true_eq, beq_iff_eq,
      List.all_eq_true] at hchecks
    rw [← hconfig] at hcondition
    obtain ⟨⟨⟨⟨⟨_, hindex⟩, hcount⟩, _⟩, hoperands⟩, _⟩ := hchecks
    refine ⟨?_, hcount.trans (congrArg _ hcondition.symm), hoperands⟩
    rw [hcondition, List.getElem?_eq_getElem hindex]
    exact List.getElem_mem hindex
  · rename_i hchecks
    exact absurd hvalid hchecks

/-- The trigger of an accepted configuration is evaluated on what its operands are, just when
none of them keeps what was left where it is fetched. -/
theorem trigger_from_operands_iff {handler : Config} {self : DataLogger}
    (haccepted : Accepted handler self) :
    ((∀ timebases memory leftover,
        let checked := self.check_trigger handler timebases memory
        let checked' := check_trigger { self with ops_data := leftover } handler timebases memory
        checked.1.1 = checked'.1.1 ∧ checked.2 = checked'.2 ∧
          Agree handler checked.1.2 checked'.1.2) ∧
      ∀ operand ∈ self.m_config.operand_list, from_source handler operand) ↔
      ∀ operand ∈ self.m_config.operand_list, ¬keeps_leftover operand := by
  obtain ⟨hcondition, hcount, hoperands⟩ := haccepted.trigger
  constructor
  · rintro ⟨_, hsources⟩ operand hoperand
    exact (from_source_iff (hoperands operand hoperand)).mp (hsources operand hoperand)
  · intro hkept
    have hsources : ∀ operand ∈ self.m_config.operand_list, from_source handler operand :=
      fun operand hoperand =>
        (from_source_iff (hoperands operand hoperand)).mpr (hkept operand hoperand)
    refine ⟨fun timebases memory leftover => ?_, hsources⟩
    refine check_trigger_agree timebases memory (trigger.lut_extensional _ hcondition)
      (fun k hk => ?_) (agree_of_leftover handler self leftover)
    rw [← hcount] at hk
    exact hsources _ (List.mem_map.mpr ⟨k, List.mem_range.mpr hk, rfl⟩)

end DataLogger

end

section

attribute [local instance] host.platform

/-- A change of the given operand by more than zero. -/
def change_of (operand : Operand) : DataLogger :=
  { host.datalogger with
    m_config := {
      items_to_log := fun _ => ⟨LoggableType.Time, 0, 0, 0⟩
      trigger := ⟨fun i => if i = 0 then operand else host.operand, 0, 2, 7⟩
      timeout_100ns := 0
      decimation := 1
      items_count := 1
      probe_location := 0 } }

def armed_on (operand : Operand) : DataLogger :=
  ((change_of operand).configure (host.config 64 [] host.none_forbidden) none 0).arm_trigger

/-- One byte of a variable of some type. -/
def bitfield_operand (datatype : VariableType) : Operand :=
  { host.operand with
    type := OperandType.VarBit
    addr := 0x1000
    datatype := datatype
    bitsize := 8 }

theorem float_bitfield_not_read :
    let handler := host.config 64 [] (by decide)
    let self := armed_on (bitfield_operand VariableType.float32)
    let memory : Memory := ⟨fun _ => 0, []⟩
    let fetched := fetch_operand handler (self.m_config.trigger.operands 0) ⟨7, 0⟩ none memory
    let kept leftover := ((DataLogger.check_trigger { self with ops_data := fun _ => ⟨leftover, 0⟩ }
      handler (fun _ => ⟨0⟩) memory).1.2.m_trigger.condition_data.previous_val)
    DataLogger.Accepted handler self ∧ fetched.1.1 = true ∧ fetched.1.2.val = 7 ∧
      fetched.2.accesses = [] ∧ kept 0 = 0 ∧ kept 7 = 7 := by
  refine ⟨⟨change_of (bitfield_operand VariableType.float32), none, 0, ?_, rfl, rfl⟩, ?_⟩
  · decide +kernel
  · decide +kernel

theorem byte_bitfield_evaluated :
    let handler := host.config 64 [] (by decide)
    let self := armed_on (bitfield_operand VariableType.uint8)
    (∀ timebases memory leftover,
        let checked := self.check_trigger handler timebases memory
        let checked' :=
          DataLogger.check_trigger { self with ops_data := leftover } handler timebases memory
        checked.1.1 = checked'.1.1 ∧ checked.2 = checked'.2 ∧
          DataLogger.Agree handler checked.1.2 checked'.1.2) ∧
      ∀ operand ∈ self.m_config.operand_list, from_source handler operand := by
  intro handler self
  have haccepted : DataLogger.Accepted handler self :=
    ⟨change_of (bitfield_operand VariableType.uint8), none, 0, by decide +kernel, rfl, rfl⟩
  exact (DataLogger.trigger_from_operands_iff haccepted).mpr (by decide +kernel)

end

end scrutiny.datalogging
