import Scrutiny.Acquisition.Usable
import Scrutiny.Datalogging.Reads

open foundation

namespace scrutiny

open datalogging protocol

section

variable [Platform]

namespace datalogging

/-- The range compared with the forbidden regions for an operand of a requested
configuration. -/
def operand_check (operand : Operand) : Option MemoryRange :=
  if operand.type = OperandType.Var ∨ operand.type = OperandType.VarBit then
    some ⟨operand.addr, (tools.get_type_size_char operand.datatype).toNat⟩
  else none

/-- The ranges compared with the forbidden regions when a configuration is requested. -/
def Configuration.checked_ranges (self : Configuration) : List MemoryRange :=
  self.item_list.filterMap item_range ++ self.operand_list.filterMap operand_check

theorem get_type_size_char_eq (vt : VariableType) :
    tools.get_type_size_char vt = tools.get_type_size_8bits vt := BitVec.udiv_one

/-- A bitfield that ends in its variable is fetched as a type that is not larger. -/
theorem bitfield_type_size {operand : Operand} (hbitsize : operand.bitsize ≠ 0)
    (hoffset : operand.bitoffset.toNat ≤ sizeof_BiggestUint * 8 - 1)
    (hsize : operand.bitsize.toNat ≤ sizeof_BiggestUint * 8)
    (hend : operand.bitoffset.toNat + operand.bitsize.toNat ≤
      (tools.get_type_size_char operand.datatype).toNat * 8) :
    (tools.get_type_size_8bits (bitfield_type operand)).toNat ≤
      (tools.get_type_size_char operand.datatype).toNat := by
  have hpos : operand.bitsize.toNat ≠ 0 := fun hzero => hbitsize (BitVec.eq_of_toNat_eq hzero)
  rw [sizeof_BiggestUint] at hoffset hsize
  unfold bitfield_type
  generalize hbits : operand.bitoffset.toNat + operand.bitsize.toNat = bits at hend
  by_cases hbyte : bits ≤ 8
  · have hrequired : MainHandler.required_size bits = 1 := by
      have hone : ∀ bits ≤ 8, bits ≠ 0 → MainHandler.required_size bits = 1 := by decide
      exact hone bits hbyte (by omega)
    have hfetched : tools.get_type_size_8bits (tools.make_type VariableTypeType._uint
        (tools.get_required_type_size_8bits 1)) = 1 := rfl
    rw [hrequired, hfetched]
    change 1 ≤ _
    omega
  · have hrequired : MainHandler.required_size bits = 2 := by
      have htwo : ∀ bits ≤ 15, 8 < bits → MainHandler.required_size bits = 2 := by decide
      exact htwo bits (by omega) (by omega)
    have hfetched : tools.get_type_size_8bits (tools.make_type VariableTypeType._uint
        (tools.get_required_type_size_8bits 2)) = 2 := rfl
    rw [hrequired, hfetched]
    change 2 ≤ _
    omega

/-- A valid operand is fetched from the range that was compared. -/
theorem operand_range_checked {handler : Config} {operand : Operand}
    (hvalid : DataLogger.operand_valid handler operand = true) {range : MemoryRange}
    (hrange : operand_range operand = some range) :
    ∃ checked, operand_check operand = some checked ∧ range.bytes ⊆ checked.bytes := by
  have hvariable {variable_type : VariableType}
      (hread : variable_range operand.addr variable_type = some range) :
      range = ⟨operand.addr, (tools.get_type_size_8bits variable_type).toNat⟩ := by
    unfold variable_range at hread
    simp only at hread
    split at hread
    · cases hread
    · rw [← get_type_size_char_eq]
      exact (Option.some.inj hread).symm
  unfold operand_range at hrange
  split at hrange
  · rename_i hvar
    refine ⟨_, if_pos (.inl hvar), ?_⟩
    rw [hvariable hrange, get_type_size_char_eq]
  · split at hrange
    · rename_i hbits
      refine ⟨_, if_pos (.inr hbits.1), ?_⟩
      rw [hvariable hrange]
      apply MemoryRange.bytes_mono
      have hbits' : operand.type = 2 := hbits.1
      simp only [DataLogger.operand_valid, hbits', OperandType.Literal, OperandType.Rpv,
        OperandType.Var, OperandType.VarBit] at hvalid
      simp only [BitVec.reduceEq, if_false, if_true, Bool.and_eq_true, decide_eq_true_eq] at hvalid
      obtain ⟨⟨⟨hoffset, hsize⟩, _⟩, hend⟩ := hvalid
      exact bitfield_type_size hbits.2 hoffset hsize hend
    · cases hrange

/-- A valid configuration reads in the ranges that were compared. -/
theorem read_ranges_checked {handler : Config} {config : Configuration}
    (hvalid : DataLogger.Validated handler config) {range : MemoryRange}
    (hrange : range ∈ config.read_ranges) :
    ∃ checked ∈ config.checked_ranges, range.bytes ⊆ checked.bytes := by
  rcases List.mem_append.mp hrange with hitem | hoperand
  · exact ⟨range, List.mem_append_left _ hitem, subset_rfl⟩
  · obtain ⟨operand, hoperand, hrange⟩ := List.mem_filterMap.mp hoperand
    obtain ⟨checked, hchecked, hbytes⟩ :=
      operand_range_checked (hvalid.operands operand hoperand) hrange
    exact ⟨checked, List.mem_append_right _ (List.mem_filterMap.mpr ⟨operand, hoperand, hchecked⟩),
      hbytes⟩

/-- The states that a datalogger with a configuration can be in. -/
def DataLogger.State.installed : DataLogger.State → Bool
  | Configured | Armed | Triggered | AcquisitionCompleted => true
  | Idle | Error => false

/-- The configuration of the datalogger, if it has one, meets `P` and is the one that its
trigger was set for. -/
def DataLogger.Installed (P : Configuration → Prop) (d : DataLogger) : Prop :=
  d.m_state.installed = true → P d.m_config ∧
    d.m_trigger.active_condition.operand_count = d.m_config.trigger.operand_count

/-- The trigger of a valid configuration is set for its operands. -/
theorem DataLogger.configure_operands {d : DataLogger} {handler : Config}
    {timebase : Option LoopId} {config_id : uint16_t}
    (hvalid : (d.configure handler timebase config_id).m_config_valid = true) :
    (d.configure handler timebase config_id).m_trigger.active_condition.operand_count =
      d.m_config.trigger.operand_count := by
  unfold configure at hvalid ⊢
  simp only at hvalid ⊢
  split at hvalid
  · rename_i hchecks
    rw [if_pos hchecks]
    simp only [Bool.and_eq_true, sizes_valid, beq_iff_eq] at hchecks
    exact hchecks.1.1.1.2.symm
  · rename_i hchecks
    exact absurd hvalid hchecks

end datalogging

theorem installed_invariant (P : Configuration → Prop) :
    DataloggerInvariant fun _ d => d.Installed P where
  reset _ _ _ _ := fun hinstalled => nomatch hinstalled
  refused _ _ _ _ _ _ := fun hinstalled => nomatch hinstalled
  reader _ _ _ h := h
  owner _ _ _ h := h
  arm_trigger _ d h := by
    unfold DataLogger.arm_trigger
    split
    · rename_i hstate
      rcases hstate with hstate | hstate | hstate <;>
        exact fun _ => h (by rw [hstate]; rfl)
    · exact h
  disarm_trigger _ d h := by
    unfold DataLogger.disarm_trigger
    split
    · rename_i hstate
      rcases hstate with hstate | hstate | hstate <;>
        exact fun _ => h (by rw [hstate]; rfl)
    · exact h
  process handler d timebases memory h := by
    cases hactive : d.m_state.active with
    | false =>
      rw [DataLogger.process_inactive hactive]
      exact h
    | true =>
      have hinstalled : d.m_state.installed = true := by
        cases hstate : d.m_state with
        | Configured | Armed | Triggered | AcquisitionCompleted => rfl
        | Idle | Error => rw [hstate] at hactive; cases hactive
      intro _
      rw [(d.process_runs handler timebases memory).config, DataLogger.process_active_condition]
      exact h hinstalled

namespace MainHandler

omit [Platform] in
theorem first_failure_ok {code : ResponseCode} {codes : List ResponseCode}
    (h : first_failure code codes = .OK) : code = .OK ∧ ∀ c ∈ codes, c = .OK := by
  unfold first_failure at h
  cases hfound : codes.find? (· ≠ .OK) with
  | none =>
    rw [hfound] at h
    exact ⟨h, fun c hc => by simpa using List.find?_eq_none.mp hfound c hc⟩
  | some c =>
    rw [hfound] at h
    have hfailed := List.find?_some hfound
    simp only [ne_eq, decide_not, Bool.not_eq_eq_eq_not, Bool.not_true, decide_eq_false_iff_not]
      at hfailed
    exact absurd h hfailed

/-- The ranges of a configuration that is permitted touch no forbidden region. -/
theorem configuration_permission_checked {handler : Config} {config : Configuration}
    (hpermitted : configuration_permission handler config = .OK) :
    ∀ checked ∈ config.checked_ranges,
      touches_forbidden_region handler checked.start_address checked.size = false := by
  obtain ⟨hoperands, hitems⟩ := first_failure_ok hpermitted
  have hoperands := (first_failure_ok hoperands).2
  intro checked hchecked
  rcases List.mem_append.mp hchecked with hitem | hoperand
  · obtain ⟨item, hitem, hrange⟩ := List.mem_filterMap.mp hitem
    have hpermission := hitems _ (List.mem_map_of_mem hitem)
    unfold item_range at hrange
    unfold item_permission at hpermission
    split at hrange
    · rename_i hmemory
      obtain rfl := Option.some.inj hrange
      rw [if_pos hmemory] at hpermission
      split at hpermission
      · cases hpermission
      · rename_i htouches
        exact Bool.eq_false_of_not_eq_true htouches
    · cases hrange
  · obtain ⟨operand, hoperand, hrange⟩ := List.mem_filterMap.mp hoperand
    have hpermission := hoperands _ (List.mem_map_of_mem hoperand)
    unfold operand_check at hrange
    unfold operand_permission at hpermission
    split at hrange
    · rename_i hvariable
      obtain rfl := Option.some.inj hrange
      rw [if_pos hvariable] at hpermission
      split at hpermission
      · cases hpermission
      · rename_i htouches
        exact Bool.eq_false_of_not_eq_true htouches
    · cases hrange

end MainHandler

namespace System

open MainHandler

/-- The datalogger keeps what is installed until a configuration is accepted. -/
theorem installed_inductive (P : Configuration → Prop) :
    System.Inductive (fun s => s.datalogger.Installed P) fun s =>
      ¬(served s = some .ConfigureDatalog ∧ (configuration_result s).1 = .OK) :=
  (installed_invariant P).inductive_of fun _ hguard _ hserved hcode =>
    absurd ⟨hserved, hcode⟩ hguard

theorem installed_run (P : Configuration → Prop) {s : System} (hready : s.main.Ready)
    (h : s.datalogger.Installed P) {events : List Event}
    (hnever : Along step (fun s e => ¬Configures s e) s events) :
    (run step s events).datalogger.Installed P := by
  have hstep (s : System) (e : Event) (h : s.main.Ready ∧ s.datalogger.Installed P)
      (hkept : ¬Configures s e) :
      (step s e).main.Ready ∧ (step s e).datalogger.Installed P := by
    refine ⟨step_ready h.1 e, (installed_inductive P).step h.1 h.2 ?_⟩
    cases e with
    | process _ _ => exact hkept
    | receive_data _ _ | pop_data _ | loop_process _ _ | application _ => trivial
  exact (run_invariant hstep ⟨hready, h⟩ hnever).2

theorem initial_idle {s : System} (hinitial : Initial s) : s.datalogger.m_state = .Idle := by
  obtain ⟨before, m_config, hinit⟩ := hinitial
  unfold MainHandler.init at hinit
  simp only at hinit
  split at hinit
  · simp at hinit
  · split at hinit
    · simp at hinit
    · simp only [Prod.mk.injEq, true_and] at hinit
      subst hinit
      rfl

/-- When the configuration was accepted, the range was in one that touched no forbidden
region. -/
def Checks (s : System) (e : Event) (range : MemoryRange) : Prop :=
  ∃ checked ∈ (configuration s e).checked_ranges,
    touches_forbidden_region s.main.m_config checked.start_address checked.size = false ∧
      range.bytes ⊆ checked.bytes

/-- An accepted configuration is installed, and all that it reads was checked. -/
theorem Configures.installs {s : System} (hready : s.main.Ready) {e : Event}
    (h : Configures s e) :
    (step s e).datalogger.Installed (fun config => config = configuration s e) ∧
      ∀ range ∈ (configuration s e).read_ranges, Checks s e range := by
  cases e with
  | process timestep_100ns stack =>
    obtain ⟨haccepted, hdatalogger⟩ := h.accepted hready
    obtain ⟨timebase, config_id, hresult⟩ := haccepted.datalogger
    have hconfig : (begin_process s timestep_100ns).main.m_config = s.main.m_config :=
      (exchange_frame (ticked s timestep_100ns)).config
    have hvalid := haccepted.valid
    rw [hresult] at hvalid
    obtain ⟨hvalidated, _, hkept, _⟩ := DataLogger.configure_valid hvalid
    have hoperands := DataLogger.configure_operands hvalid
    constructor
    · intro _
      rw [hdatalogger, hresult, hkept]
      exact ⟨rfl, hoperands⟩
    · intro range hrange
      obtain ⟨checked, hchecked, hbytes⟩ := read_ranges_checked hvalidated hrange
      have htouches := configuration_permission_checked haccepted.permitted checked hchecked
      rw [hconfig] at htouches
      exact ⟨checked, hchecked, htouches, hbytes⟩
  | receive_data _ _ => exact h.elim
  | pop_data _ => exact h.elim
  | loop_process _ _ => exact h.elim
  | application _ => exact h.elim

/-- What a datalogger that logs reads is in the ranges of its configuration, and these were
checked when the request that it comes from was handled. -/
theorem reads_checked {start : System} (hinitial : Initial start) (events : List Event)
    (hactive : (run step start events).datalogger.m_state.active = true) :
    let d := (run step start events).datalogger
    (∀ handler timebases memory,
      Memory.ReadsIn d.m_config.read_ranges memory (d.process handler timebases memory).2) ∧
    Once step (fun s e later => Configures s e ∧
      Along step (fun s e => ¬Configures s e) (step s e) later ∧
      d.m_config = configuration s e ∧
      ∀ range ∈ d.m_config.read_ranges, Checks s e range) start events := by
  have hinstalled : (run step start events).datalogger.m_state.installed = true := by
    cases hstate : (run step start events).datalogger.m_state with
    | Configured | Armed | Triggered | AcquisitionCompleted => rfl
    | Idle | Error => rw [hstate] at hactive; cases hactive
  have hready := initial_ready hinitial
  rcases never_or_last step Configures start events with hnever | hlast
  · have hnothing : start.datalogger.Installed fun _ => False := by
      intro hset
      rw [initial_idle hinitial] at hset
      cases hset
    exact ((installed_run _ hready hnothing hnever) hinstalled).1.elim
  · have hkept (s e later) (hrun : run step (step s e) later = run step start events)
        (hlast : s.main.Ready ∧ Configures s e ∧
          Along step (fun s e => ¬Configures s e) (step s e) later) :
        (run step start events).datalogger.Installed (fun config => config = configuration s e) ∧
          ∀ range ∈ (configuration s e).read_ranges, Checks s e range := by
      obtain ⟨hready, hconfigures, hnever⟩ := hlast
      obtain ⟨hset, hchecks⟩ := hconfigures.installs hready
      rw [← hrun]
      exact ⟨installed_run _ (step_ready hready e) hset hnever, hchecks⟩
    have hstep (s : System) (e : Event) (h : s.main.Ready) : (step s e).main.Ready :=
      step_ready h e
    have hlast := hlast.of_invariant hstep hready
    constructor
    · intro handler timebases memory
      exact DataLogger.process_reads _ handler timebases memory
        (hlast.imp fun s e later hrun h => ((hkept s e later hrun h).1 hinstalled).2)
    · refine hlast.mono fun s e later hrun h => ?_
      obtain ⟨hset, hchecks⟩ := hkept s e later hrun h
      obtain ⟨hready, hconfigures, hnever⟩ := h
      obtain ⟨hconfig, _⟩ := hset hinstalled
      rw [hconfig]
      exact ⟨hconfigures, hnever, rfl, hchecks⟩

end System

end

section

attribute [local instance] host.platform

/-- One byte of memory, in the configuration that has just been accepted. -/
theorem one_byte_checked :
    Once System.step (fun s e later => System.Configures s e ∧
      Along System.step (fun s e => ¬System.Configures s e) (System.step s e) later ∧
      (run System.step host.start (sized 1 ++ [.process 0 host.stack])).datalogger.m_config =
        System.configuration s e ∧
      ∀ range ∈ (run System.step host.start (sized 1 ++
        [.process 0 host.stack])).datalogger.m_config.read_ranges, System.Checks s e range)
      host.start (sized 1 ++ [.process 0 host.stack]) := by
  have hchecked := System.reads_checked host.initial_start (sized 1 ++ [.process 0 host.stack])
    (by decide +kernel)
  exact hchecked.2

end

end scrutiny
